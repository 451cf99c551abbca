import Lifeline.Number.Binary64

/-! # The shortest decimal that reads back

A number is written with the fewest digits that read back as the same pattern, and of the decimals
with that many digits the one nearest to the value; where a tie goes is up to the kind of text.  The
decimals that read back are those in the interval between the midpoints to the two neighbouring
patterns, the midpoints included for an even pattern.  Plain text has the digits without an exponent,
however many zeros that takes.
-/

namespace Lifeline

structure Decimal where
  digits : Nat
  exponent : Int
deriving DecidableEq, Repr

namespace Decimal

/-- A decimal without zeros at the end of its digits, taking off at most `limit` of them. -/
def stripZeros : Nat → Decimal → Decimal
  | 0, x => x
  | limit + 1, x =>
    if x.digits ≠ 0 ∧ x.digits % 10 = 0 then stripZeros limit ⟨x.digits / 10, x.exponent + 1⟩
    else x

/-- The digits of a decimal around a point, which is left out if nothing stands behind it. -/
def positional (x : Decimal) : String :=
  let digits := (Nat.toDigits 10 x.digits)
  if 0 ≤ x.exponent then String.ofList (digits ++ List.replicate x.exponent.toNat '0')
  else
    let places := (-x.exponent).toNat
    let padded := List.replicate (places + 1 - digits.length) '0' ++ digits
    let whole := padded.length - places
    String.ofList (padded.take whole ++ '.' :: padded.drop whole)

end Decimal

namespace Binary64

/-! ## The interval that reads back -/

/-- Bounds of the decimals that read back as a pattern, as numerators over `denominator`. -/
structure Interval where
  low : Nat
  value : Nat
  high : Nat
  denominator : Nat
  closed : Bool
deriving Repr

/-- The interval of a finite pattern.  Below a power of two the neighbour is twice as near. -/
def interval (x : Binary64) : Interval :=
  let unit := twoTo (x.power - unitPower)
  let below := if x.fraction = 0 ∧ 1 < x.exponentField then 1 else 2
  { low := (4 * x.significand - below) * unit
    value := 4 * x.significand * unit
    high := (4 * x.significand + 2) * unit
    denominator := 4 * x.denominator
    closed := x.significand % 2 = 0 }

def Interval.holds (i : Interval) (x : Decimal) : Bool :=
  let n := x.digits * tenTo x.exponent.toNat * i.denominator
  let scale := tenTo (-x.exponent).toNat
  if i.closed then i.low * scale ≤ n && n ≤ i.high * scale
  else i.low * scale < n && n < i.high * scale

/-- The member of the grid of multiples of `10 ^ exponent` that lies in an interval nearest to its
    value. -/
def Interval.nearest? (i : Interval) (tie : Number.Tie) (exponent : Int) : Option Decimal :=
  let n := i.value * tenTo (-exponent).toNat
  let d := i.denominator * tenTo exponent.toNat
  let down : Decimal := ⟨n / d, exponent⟩
  let up : Decimal := ⟨n / d + 1, exponent⟩
  match i.holds down, i.holds up with
  | true, true => some (if tie.goesUp n d then up else down)
  | true, false => some down
  | false, true => some up
  | false, false => none

/-! ## Digits -/

/-- The greatest `k` with `10 ^ k ≤ n / d`, for a quotient above `10 ^ -400`. -/
def floorLog10 (n d : Nat) : Int :=
  if d ≤ n then ((Nat.toDigits 10 (n / d)).length : Int) - 1
  else -(((List.range 400).find? fun j => d ≤ n * tenTo (j + 1)).getD 400 + 1 : Int)

/-- The nearest member of the coarsest grid that meets the interval, from a grid with one digit to
    one with `grids` digits. -/
def Interval.shortest (i : Interval) (tie : Number.Tie) (top : Int) : Nat → Option Decimal
  | 0 => none
  | grids + 1 =>
    match i.shortest tie top grids with
    | some x => some x
    | none => i.nearest? tie (top - grids)

/-- The shortest decimal that reads back as a positive finite pattern.  Seventeen digits always
    suffice. -/
def shortest (x : Binary64) (tie : Number.Tie) : Decimal :=
  let i := x.interval
  ((i.shortest tie (floorLog10 i.value i.denominator) 17).getD ⟨0, 0⟩).stripZeros 20

/-! ## Text -/

/-- The text of a number: its shortest decimal, without an exponent, where a tie goes up. -/
def text (x : Binary64) : String :=
  if x.isNan then "NaN"
  else
    let sign := if x.isNegative then "-" else ""
    if !x.isFinite then sign ++ "inf"
    else if x.isZero then sign ++ "0"
    else sign ++ (x.shortest .up).positional

def pointedText (x : Binary64) : String :=
  if x.isFinite && !x.text.toList.contains '.' then x.text ++ ".0" else x.text

end Binary64

end Lifeline
