import Lifeline.Json.Number
import Lifeline.Json.Quoted
import Lifeline.Mismatch
import Lifeline.Number.Compact

/-! # JSON documents

A `Value` is a JSON document with its members in the order of the text, repeated names included.
`readValue` reads one from the front of a text.  Containers may be nested up to a limit, and the
recursion spends `fuel`, of which twice the length of the text is always enough.
-/

namespace Lifeline.Json

inductive Value where
  | null
  | boolean (value : Bool)
  | number (value : Number)
  | string (value : String)
  | array (items : List Value)
  | object (members : List (String × Value))
deriving Repr

def Number.found : Number → Found
  | .integer value => .integer value
  | .binary value => .number value

def Value.found : Value → Found
  | .null => .null
  | .boolean value => .boolean value
  | .number value => value.found
  | .string value => .string value
  | .array _ => .sequence
  | .object _ => .map

inductive ReadError where
  | malformed
  | mismatch (mismatch : Mismatch)
deriving DecidableEq, Repr

def mismatchText (mismatch : Mismatch) : String := mismatch.text Binary64.compactText

/-! ## Pieces -/

def isSpace (c : Char) : Bool := c = ' ' || c = '\n' || c = '\t' || c = '\r'

def skipSpace (cs : List Char) : List Char := cs.dropWhile isSpace

def expect (c : Char) (cs : List Char) : Option (List Char) :=
  match skipSpace cs with
  | d :: rest => if c = d then some rest else none
  | [] => none

/-- How deep containers may be nested, and one more. -/
def depthLimit : Nat := 128

/-- What stands at the front of a text, without looking into a container. -/
def peek (cs : List Char) : Option Found :=
  match skipSpace cs with
  | 'n' :: 'u' :: 'l' :: 'l' :: _ => some .null
  | 't' :: 'r' :: 'u' :: 'e' :: _ => some (.boolean true)
  | 'f' :: 'a' :: 'l' :: 's' :: 'e' :: _ => some (.boolean false)
  | '"' :: rest => (readString 0 rest).map fun (text, _) => .string (String.ofList text)
  | '[' :: _ => some .sequence
  | '\x7b' :: _ => some .map
  | rest => (readNumber rest).map fun (number, _) => number.found

def readName (cs : List Char) : Option (String × List Char) :=
  match skipSpace cs with
  | '"' :: rest => (readString 0 rest).map fun (name, rest) => (String.ofList name, rest)
  | _ => none

/-- What comes after an item of a container: another item, or what follows the container. -/
inductive Next where
  | item (rest : List Char)
  | close (rest : List Char)
deriving Repr

/-- Reads up to the next item of a container that ends with `closing`. -/
def nextItem (closing : Char) (isFirst : Bool) (cs : List Char) : Option Next :=
  match skipSpace cs with
  | [] => none
  | c :: rest =>
    if c = closing then some (.close rest)
    else if isFirst then some (.item (c :: rest))
    else if c = ',' then some (.item rest)
    else none

/-! ## Documents -/

mutual

def readValue : Nat → Nat → List Char → Option (Value × List Char)
  | 0, _, _ => none
  | fuel + 1, depth, cs =>
    match skipSpace cs with
    | 'n' :: 'u' :: 'l' :: 'l' :: rest => some (.null, rest)
    | 't' :: 'r' :: 'u' :: 'e' :: rest => some (.boolean true, rest)
    | 'f' :: 'a' :: 'l' :: 's' :: 'e' :: rest => some (.boolean false, rest)
    | '"' :: rest =>
      (readString 0 rest).map fun (text, rest) => (.string (String.ofList text), rest)
    | '[' :: rest =>
      if depth ≤ 1 then none
      else (readItems fuel (depth - 1) true rest).map fun (items, rest) => (.array items, rest)
    | '\x7b' :: rest =>
      if depth ≤ 1 then none
      else
        (readMembers fuel (depth - 1) true rest).map
          fun (members, rest) => (.object members, rest)
    | rest => (readNumber rest).map fun (number, rest) => (.number number, rest)

def readItems : Nat → Nat → Bool → List Char → Option (List Value × List Char)
  | 0, _, _, _ => none
  | fuel + 1, depth, isFirst, cs =>
    match nextItem ']' isFirst cs with
    | none => none
    | some (.close rest) => some ([], rest)
    | some (.item rest) =>
      match readValue fuel depth rest with
      | none => none
      | some (item, rest) =>
        (readItems fuel depth false rest).map fun (items, rest) => (item :: items, rest)

def readMembers : Nat → Nat → Bool → List Char → Option (List (String × Value) × List Char)
  | 0, _, _, _ => none
  | fuel + 1, depth, isFirst, cs =>
    match nextItem '\x7d' isFirst cs with
    | none => none
    | some (.close rest) => some ([], rest)
    | some (.item rest) =>
      match readName rest with
      | none => none
      | some (name, rest) =>
        match (expect ':' rest).bind (readValue fuel depth) with
        | none => none
        | some (value, rest) =>
          (readMembers fuel depth false rest).map
            fun (members, rest) => ((name, value) :: members, rest)

end

def fuelFor (cs : List Char) : Nat := 2 * cs.length + 2

def atEnd {α : Type} (result : α × List Char) : Except ReadError α :=
  if (skipSpace result.2).isEmpty then .ok result.1 else .error .malformed

end Lifeline.Json
