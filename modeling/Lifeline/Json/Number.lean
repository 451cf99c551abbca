import Lifeline.Number.Arithmetic

/-! # JSON numbers

A number without fraction and exponent is an integer if 64 bits hold it.  Any other number becomes
binary: its digits are collected for as long as 64 bits hold them, and the result is scaled by a
power of ten in one rounded multiplication or division.  A value beyond the finite range is refused.
-/

namespace Lifeline.Json

inductive Number where
  | integer (value : Int)
  | binary (value : Binary64)
deriving DecidableEq, Repr

/-! ## Scaling -/

def powerOfTen (k : Nat) : Binary64 := .ofNat (tenTo k)

def greatestPower : Nat := 308

/-- Divides by a power of ten, in `steps` divisions by the greatest power at the most. -/
def scaleDown : Nat → Binary64 → Nat → Binary64
  | 0, x, _ => x
  | steps + 1, x, k =>
    if k ≤ greatestPower then x.dividedBy (powerOfTen k)
    else scaleDown steps (x.dividedBy (powerOfTen greatestPower)) (k - greatestPower)

/-- `significand * 10 ^ exponent`, or `none` beyond the finite range.  Three divisions make a zero of
    whatever 64 bits can hold. -/
def scaled (negative : Bool) (significand : Nat) (exponent : Int) : Option Binary64 :=
  let signed := fun (x : Binary64) => Binary64.ofParts negative x.bits.toNat
  let x := Binary64.ofNat significand
  if exponent < 0 then some (signed (scaleDown 4 x (-exponent).toNat))
  else if x.isZero then some (signed x)
  else if greatestPower < exponent then none
  else
    let product := x.times (powerOfTen exponent.toNat)
    if product.isFinite then some (signed product) else none

/-! ## Digits -/

def digitValue (c : Char) : Nat := c.toNat - '0'.toNat

def fits (n : Nat) : Bool := n < twoTo 64

/-- Appends digits to a number for as long as 64 bits hold it: the number, and how many digits were
    left out. -/
def collect (n : Nat) : List Char → Nat × Nat
  | [] => (n, 0)
  | c :: rest =>
    if fits (n * 10 + digitValue c) then collect (n * 10 + digitValue c) rest
    else (n, rest.length + 1)

def readExponent (negative : Bool) (significand : Nat) (start : Int) (cs : List Char) :
    Option (Number × List Char) :=
  let (down, cs) := match cs with
    | '+' :: rest => (false, rest)
    | '-' :: rest => (true, rest)
    | _ => (false, cs)
  let digits := cs.takeWhile Char.isDigit
  let rest := cs.dropWhile Char.isDigit
  if digits.isEmpty then none
  else
    let size := digits.foldl (fun n c => n * 10 + digitValue c) 0
    if twoTo 31 ≤ size then
      if significand = 0 ∨ down then some (.binary (.ofParts negative 0), rest) else none
    else
      (scaled negative significand (if down then start - size else start + size)).map
        fun x => (.binary x, rest)

def readScale (negative : Bool) (significand : Nat) (exponent : Int) (cs : List Char) :
    Option (Number × List Char) :=
  match cs with
  | 'e' :: rest | 'E' :: rest => readExponent negative significand exponent rest
  | _ => (scaled negative significand exponent).map fun x => (.binary x, cs)

/-- Reads a fraction behind its point.  Digits that 64 bits cannot hold are left out. -/
def readFraction (negative : Bool) (significand : Nat) (exponent : Int) (cs : List Char) :
    Option (Number × List Char) :=
  let digits := cs.takeWhile Char.isDigit
  if digits.isEmpty then none
  else
    let (collected, dropped) := collect significand digits
    readScale negative collected (exponent - (digits.length - dropped : Nat))
      (cs.dropWhile Char.isDigit)

/-- An integer, or the binary number in its place if it is a negative zero or too far below zero. -/
def ofSignificand (negative : Bool) (n : Nat) : Number :=
  if !negative then .integer n
  else if n = 0 ∨ twoTo 63 < n then
    .binary (.ofParts true (Binary64.ofNat n).bits.toNat)
  else .integer (-n)

def readUnsigned (negative : Bool) (cs : List Char) : Option (Number × List Char) :=
  let digits := cs.takeWhile Char.isDigit
  let rest := cs.dropWhile Char.isDigit
  match digits with
  | [] => none
  | '0' :: _ :: _ => none
  | digits =>
    let (significand, dropped) := collect 0 digits
    match rest with
    | '.' :: rest => readFraction negative significand dropped rest
    | 'e' :: _ | 'E' :: _ => readScale negative significand dropped rest
    | _ =>
      if dropped = 0 then some (ofSignificand negative significand, rest)
      else readScale negative significand dropped rest

def readNumber : List Char → Option (Number × List Char)
  | '-' :: rest => readUnsigned true rest
  | cs => readUnsigned false cs

end Lifeline.Json
