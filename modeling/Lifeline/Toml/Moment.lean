import Lifeline.Toml.Number

/-! # Dates and times in a document

A moment is a date, a time of day, or a date with a time of day and perhaps an offset behind it.
Reading checks that the date is in the calendar and that the clock can show the time, a leap second
included.
-/

namespace Lifeline.Toml

/-! ## Calendar and clock -/

def isLeapYear (year : Nat) : Bool := year % 4 = 0 && (year % 100 ≠ 0 || year % 400 = 0)

def daysIn (year month : Nat) : Nat :=
  if month = 2 then if isLeapYear year then 29 else 28
  else if month = 4 ∨ month = 6 ∨ month = 9 ∨ month = 11 then 30
  else 31

/-! ## Pieces -/

/-- Reads a number of `count` digits between two bounds, and then `mark` if one is given: the
    number, and what follows. -/
def readField (count low high : Nat) (mark : Option Char) (cs : List Char) :
    Option (Nat × List Char) :=
  let digits := cs.take count
  let n := numeral 10 digits
  if digits.length = count ∧ digits.all Char.isDigit ∧ low ≤ n ∧ n ≤ high then
    match mark, cs.drop count with
    | none, rest => some (n, rest)
    | some c, d :: rest => if c = d then some (n, rest) else none
    | some _, [] => none
  else none

def readDate (cs : List Char) : Option (List Char) := do
  let (year, rest) ← readField 4 0 9999 (some '-') cs
  let (month, rest) ← readField 2 1 12 (some '-') rest
  let (_, rest) ← readField 2 1 (daysIn year month) none rest
  return rest

def readTime (cs : List Char) : Option (List Char) := do
  let (_, rest) ← readField 2 0 23 (some ':') cs
  let (_, rest) ← readField 2 0 59 (some ':') rest
  let (_, rest) ← readField 2 0 60 none rest
  match rest with
  | '.' :: c :: more => return if c.isDigit then more.dropWhile Char.isDigit else rest
  | _ => return rest

/-- Reads the distance from universal time, if it is given: what follows it. -/
def readOffset (cs : List Char) : Option (List Char) :=
  match cs with
  | [] => some []
  | c :: rest =>
    if c = 'Z' ∨ c = 'z' then some rest
    else if c = '+' ∨ c = '-' then do
      let (_, rest) ← readField 2 0 23 (some ':') rest
      let (_, rest) ← readField 2 0 59 none rest
      return rest
    else some cs

def isDivider (c : Char) : Bool := c = 'T' || c = 't' || c = ' '

/-! ## Moments -/

/-- Reads a moment: what follows it.  White space behind a date belongs to it only if a time of day
    comes next. -/
def readMoment (cs : List Char) : Option (List Char) :=
  match readDate cs with
  | none => readTime cs
  | some [] => some []
  | some (c :: rest) =>
    if !isDivider c then some (c :: rest)
    else
      match readTime rest with
      | none => some (c :: rest)
      | some rest => readOffset rest

end Lifeline.Toml
