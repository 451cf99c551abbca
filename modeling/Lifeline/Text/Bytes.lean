/-! # Text as bytes

Texts travel as UTF-8.  `encode` writes a text; `front` reads the character at the front of a byte
list or says how many bytes cannot belong to any character, and the two readers are built on it:
`decode?` refuses a list with such bytes, `decodeLossy` puts U+FFFD in their place.  Both agree on
every list that `decode?` accepts.
-/

namespace Lifeline

abbrev Bytes := List UInt8

namespace Text

def encodeChars (cs : List Char) : Bytes := cs.flatMap String.utf8EncodeChar

def encode (s : String) : Bytes := encodeChars s.toList

/-! ## One character -/

/-- The six bits that a byte inside a character carries. -/
def payload (b : UInt8) : Nat := b.toNat % 64

def within (low high b : UInt8) : Bool := low ≤ b && b ≤ high

def isInner (b : UInt8) : Bool := within 0x80 0xBF b

/-- The least and the greatest second byte after a first one: the bounds that keep out overlong
    forms, surrogates and values above U+10FFFF. -/
def secondRange (b : UInt8) : UInt8 × UInt8 :=
  if b = 0xE0 then (0xA0, 0xBF)
  else if b = 0xED then (0x80, 0x9F)
  else if b = 0xF0 then (0x90, 0xBF)
  else if b = 0xF4 then (0x80, 0x8F)
  else (0x80, 0xBF)

/-- How many bytes follow a first byte, or `none` for a byte that begins no character. -/
def following (b : UInt8) : Option Nat :=
  if b < 0x80 then some 0
  else if within 0xC2 0xDF b then some 1
  else if within 0xE0 0xEF b then some 2
  else if within 0xF0 0xF4 b then some 3
  else none

/-- Reads the character whose first byte is `b`: the character, or `none` if the bytes form none,
    and how many of the bytes after `b` belong to it or to the broken piece. -/
def front (b : UInt8) (rest : Bytes) : Option Char × Nat :=
  let second := fun x => within (secondRange b).1 (secondRange b).2 x
  match following b, rest with
  | none, _ => (none, 0)
  | some 0, _ => (some (Char.ofNat b.toNat), 0)
  | some 1, x :: _ =>
    if second x then (some (Char.ofNat (b.toNat % 32 * 64 + payload x)), 1) else (none, 0)
  | some 2, x :: y :: _ =>
    if !second x then (none, 0)
    else if !isInner y then (none, 1)
    else (some (Char.ofNat ((b.toNat % 16 * 64 + payload x) * 64 + payload y)), 2)
  | some _, x :: y :: z :: _ =>
    if !second x then (none, 0)
    else if !isInner y then (none, 1)
    else if !isInner z then (none, 2)
    else
      (some (Char.ofNat (((b.toNat % 8 * 64 + payload x) * 64 + payload y) * 64 + payload z)), 3)
  | some _, x :: y :: [] =>
    if !second x then (none, 0) else if !isInner y then (none, 1) else (none, 2)
  | some _, x :: [] => if second x then (none, 1) else (none, 0)
  | some _, [] => (none, 0)

/-! ## A whole list -/

/-- Reads a byte list of which the first `skip` bytes are already accounted for, replacing each
    broken piece by `mark`. -/
def decodeWith (mark : Option Char) : Nat → Bytes → Option (List Char)
  | _, [] => some []
  | skip + 1, _ :: rest => decodeWith mark skip rest
  | 0, b :: rest =>
    match (front b rest).1.or mark with
    | none => none
    | some c => (decodeWith mark (front b rest).2 rest).map (c :: ·)

def decode? (bytes : Bytes) : Option String := (decodeWith none 0 bytes).map String.ofList

/-- The text of a byte list, with U+FFFD for each piece that is not UTF-8. -/
def decodeLossy (bytes : Bytes) : String :=
  String.ofList ((decodeWith (some '\uFFFD') 0 bytes).getD [])

end Text

end Lifeline
