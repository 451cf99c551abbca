import Lifeline.Json.Quoted
import Lifeline.Toml.Table

/-! # Numbers in a document

An integer is decimal, with a sign if need be, or has a base of its own and no sign; 64 bits with a
sign hold it.  A fraction or an exponent makes a binary number of it, which is the nearest one.
Underscores may stand between two digits.
-/

namespace Lifeline.Toml

/-! ## Digits -/

/-- Reads the digits that are left of a number, each underscore followed by a digit. -/
def readDigits (isDigit : Char → Bool) : List Char → Option (List Char × List Char)
  | [] => some ([], [])
  | '_' :: rest =>
    match rest with
    | c :: _ => if isDigit c then readDigits isDigit rest else none
    | [] => none
  | c :: rest =>
    if isDigit c then (readDigits isDigit rest).map fun (digits, rest) => (c :: digits, rest)
    else some ([], c :: rest)

/-- Reads a number's digits, of which there is at least one, and it comes first. -/
def readSomeDigits (isDigit : Char → Bool) (cs : List Char) : Option (List Char × List Char) :=
  match cs with
  | c :: _ => if isDigit c then readDigits isDigit cs else none
  | [] => none

def digitValue (c : Char) : Nat := (Json.hexDigit? c).getD 0

def numeral (base : Nat) (digits : List Char) : Nat :=
  digits.foldl (fun n c => n * base + digitValue c) 0

def isDigitOf (base : Nat) (c : Char) : Bool :=
  match Json.hexDigit? c with
  | none => false
  | some value => value < base

def readWhole (cs : List Char) : Option (List Char × List Char) :=
  match cs with
  | '0' :: rest => some (['0'], rest)
  | _ => readSomeDigits (isDigitOf 10) cs

/-! ## Numbers -/

def fits (n : Int) : Bool := -(twoTo 63 : Int) ≤ n && n < twoTo 63

def ofInteger? (n : Int) : Option Item := if fits n then some (.integer n) else none

def readBased (base : Nat) (cs : List Char) : Option (Item × List Char) :=
  match readSomeDigits (isDigitOf base) cs with
  | none => none
  | some (digits, rest) => (ofInteger? (numeral base digits)).map fun item => (item, rest)

def readExponent (cs : List Char) : Option (Int × List Char) :=
  let behind := fun rest : List Char =>
    match rest with
    | '-' :: rest =>
      (readSomeDigits (isDigitOf 10) rest).map fun (digits, rest) => (-(numeral 10 digits : Int), rest)
    | '+' :: rest =>
      (readSomeDigits (isDigitOf 10) rest).map fun (digits, rest) => ((numeral 10 digits : Int), rest)
    | _ =>
      (readSomeDigits (isDigitOf 10) rest).map fun (digits, rest) => ((numeral 10 digits : Int), rest)
  match cs with
  | 'e' :: rest => behind rest
  | 'E' :: rest => behind rest
  | _ => some (0, cs)

def readFraction (cs : List Char) : Option (List Char × List Char) :=
  match cs with
  | '.' :: rest => readSomeDigits (isDigitOf 10) rest
  | _ => some ([], cs)

/-- The binary number with some digits, unless it is beyond the greatest one.  One that is beyond the
    least one counts as infinite. -/
def ofDigits? (negative : Bool) (digits : List Char) (exponent : Int) : Option Item :=
  let x := Binary64.ofDecimal negative (numeral 10 digits) exponent
  if x.isFinite || negative then some (.number x) else none

def readDecimal (negative : Bool) (cs : List Char) : Option (Item × List Char) := do
  let (whole, afterWhole) ← readWhole cs
  let (fraction, afterFraction) ← readFraction afterWhole
  let (exponent, rest) ← readExponent afterFraction
  if rest.length = afterWhole.length then
    let n : Int := numeral 10 whole
    return (← ofInteger? (if negative then -n else n), rest)
  else
    return (← ofDigits? negative (whole ++ fraction) (exponent - fraction.length), rest)

/-- Reads a number behind its sign; an infinity and the lack of a number have names. -/
def readUnsigned (negative : Bool) (cs : List Char) : Option (Item × List Char) :=
  match cs with
  | 'i' :: 'n' :: 'f' :: rest => some (.number (.infinity negative), rest)
  | 'n' :: 'a' :: 'n' :: rest =>
    some (.number (.ofParts negative Binary64.nan.bits.toNat), rest)
  | _ => readDecimal negative cs

def readNumber (cs : List Char) : Option (Item × List Char) :=
  match cs with
  | '0' :: 'x' :: rest => readBased 16 rest
  | '0' :: 'o' :: rest => readBased 8 rest
  | '0' :: 'b' :: rest => readBased 2 rest
  | '+' :: rest => readUnsigned false rest
  | '-' :: rest => readUnsigned true rest
  | _ => readUnsigned false cs

end Lifeline.Toml
