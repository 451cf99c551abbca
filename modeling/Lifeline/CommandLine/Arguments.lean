import Lifeline.CommandLine.Misuse
import Lifeline.Files.Path
import Lifeline.Number.Reading
import Lifeline.Text.Similarity

/-! # Values of flags

The flags that are given make up `Arguments`: for each setting that a flag can override, the value
of the flag, if it was given.  A value that is not suitable is a problem of its flag.
-/

namespace Lifeline.CommandLine

inductive Output where
  | text
  | json
deriving DecidableEq, Repr

structure Arguments where
  host : Option String := none
  port : Option UInt16 := none
  heartbeatInterval : Option Binary64 := none
  noHeartbeat : Bool := false
  quitKeyword : Option String := none
  output : Output := .text
  config : Option Path := none
deriving DecidableEq, Repr

/-! ## Integers -/

inductive IntegerFault where
  | empty
  | badDigit
  | tooLarge
  | tooSmall
deriving DecidableEq, Repr

def IntegerFault.text : IntegerFault → String
  | .empty => "cannot parse integer from empty string"
  | .badDigit => "invalid digit found in string"
  | .tooLarge => "number too large to fit in target type"
  | .tooSmall => "number too small to fit in target type"

/-- Appends digits to a number, as long as its absolute value is not above `limit`. -/
def appendDigits (limit : Nat) (beyond : IntegerFault) (n : Nat) :
    List Char → Except IntegerFault Nat
  | [] => .ok n
  | c :: rest =>
    let next := n * 10 + Number.decimalOf [c]
    if !c.isDigit then .error .badDigit
    else if limit < next then .error beyond
    else appendDigits limit beyond next rest

def integerOf (text : String) : Except IntegerFault Int :=
  let (negative, digits) := Number.splitSign text.toList
  if text.isEmpty then .error .empty
  else if digits.isEmpty then .error .badDigit
  else if negative then (appendDigits (twoTo 63) .tooSmall 0 digits).map fun n => -(n : Int)
  else (appendDigits (twoTo 63 - 1) .tooLarge 0 digits).map fun n => (n : Int)

/-! ## Values -/

def portOf (text : String) : Except String UInt16 :=
  match integerOf text with
  | .error fault => .error fault.text
  | .ok n => if 1 ≤ n ∧ n < 65536 then .ok (.ofNat n.toNat) else .error s!"{n} is not in 1..=65535"

def secondsOfText (text : String) : Except String Binary64 :=
  match Number.ofText? text with
  | some x => .ok x
  | none =>
    .error (if text.isEmpty then "cannot parse float from empty string" else "invalid float literal")

def outputOf? : String → Option Output
  | "text" => some .text
  | "json" => some .json
  | _ => none

/-- Takes over the value of a flag.  What follows a flag without value does not matter. -/
def Arguments.accept (args : Arguments) (flag : Flag) (value : String) :
    Except Problem Arguments :=
  match flag with
  | .host => .ok { args with host := some value }
  | .port =>
    match portOf value with
    | .ok port => .ok { args with port := some port }
    | .error reason => .error (.badValue flag value reason)
  | .heartbeatInterval =>
    match secondsOfText value with
    | .ok seconds => .ok { args with heartbeatInterval := some seconds }
    | .error reason => .error (.badValue flag value reason)
  | .noHeartbeat => .ok { args with noHeartbeat := true }
  | .quitKeyword => .ok { args with quitKeyword := some value }
  | .output =>
    match outputOf? value with
    | some output => .ok { args with output }
    | none =>
      if value.isEmpty then .error (.noValue flag)
      else .error (.noChoice flag value (Text.similar flag.choices value).getLast?)
  | .config =>
    if value.isEmpty then .error (.noValue flag)
    else .ok { args with config := some (.ofText value) }
  | .help | .version => .ok args

end Lifeline.CommandLine
