import Lifeline.Number.Power
import Lifeline.Number.Rounding

/-! # Binary floating-point numbers of 64 bits

A `Binary64` is a pattern of 64 bits in the interchange format for binary floating-point numbers:
a sign, eleven bits of exponent and fifty-two of fraction.  A finite pattern denotes exactly
`numerator / denominator`, with its sign, and all questions about its value are answered in natural
numbers.  `ofRatio` goes the other way and takes the nearest pattern, so it inverts the reading of
every finite one.
-/

namespace Lifeline

/-- A pattern of 64 bits that denotes a number, an infinity or no number. -/
structure Binary64 where
  bits : UInt64
deriving DecidableEq, Repr

namespace Binary64

/-! ## Fields -/

def fractionBits : Nat := 52

def exponentLimit : Nat := 2047

/-- The power of two of the smallest pattern's unit, negated. -/
def unitPower : Nat := 1074

def isNegative (x : Binary64) : Bool := twoTo 63 ≤ x.bits.toNat

def exponentField (x : Binary64) : Nat := x.bits.toNat / twoTo 52 % twoTo 11

def fraction (x : Binary64) : Nat := x.bits.toNat % twoTo 52

def isFinite (x : Binary64) : Bool := x.exponentField ≠ exponentLimit

def isNan (x : Binary64) : Bool := x.exponentField = exponentLimit && x.fraction ≠ 0

/-- The number of units in a finite pattern's value, a unit being `2 ^ (power - unitPower)`. -/
def significand (x : Binary64) : Nat :=
  if x.exponentField = 0 then x.fraction else x.fraction + twoTo 52

/-- The power of two by which the unit of a finite pattern exceeds the smallest one. -/
def power (x : Binary64) : Nat := x.exponentField - 1

/-! ## Value -/

/-- A finite pattern's absolute value is `numerator / denominator`. -/
def numerator (x : Binary64) : Nat := x.significand * twoTo (x.power - unitPower)

def denominator (x : Binary64) : Nat := twoTo (unitPower - x.power)

def isZero (x : Binary64) : Bool := x.exponentField = 0 && x.fraction = 0

/-- Whether the value is above zero; no pattern without a value is. -/
def isPositive (x : Binary64) : Bool := !x.isNegative && !x.isNan && !x.isZero

/-- Whether the value is below zero; neither zero is, nor any pattern without a value. -/
def isBelowZero (x : Binary64) : Bool := x.isNegative && !x.isNan && !x.isZero

def isAtMostZero (x : Binary64) : Bool := x.isZero || x.isBelowZero

/-! ## From a value -/

def ofParts (negative : Bool) (magnitude : Nat) : Binary64 :=
  ⟨UInt64.ofNat (magnitude + if negative then twoTo 63 else 0)⟩

def zero : Binary64 := ⟨0⟩

def nan : Binary64 := ⟨0x7FF8000000000000⟩

def infinity (negative : Bool) : Binary64 := ofParts negative (exponentLimit * twoTo 52)

/-- The greatest `k` with `2 ^ k ≤ n / d`, both positive. -/
def floorLog2 (n d : Nat) : Int :=
  let k : Int := (n.log2 : Int) - d.log2
  if n * twoTo (-k).toNat < d * twoTo k.toNat then k - 1 else k

/-- The pattern nearest to `n / d`, the even one of two that are equally near, with the given sign.
    A value beyond the greatest finite pattern by half a unit or more becomes an infinity. -/
def ofRatio (negative : Bool) (n d : Nat) : Binary64 :=
  if n = 0 then ofParts negative 0
  else
    let power := (floorLog2 n d - fractionBits + unitPower).toNat
    let shift : Int := power - unitPower
    let units := Number.roundHalfEven (n * twoTo (-shift).toNat) (d * twoTo shift.toNat)
    let magnitude := power * twoTo 52 + units
    if exponentLimit * twoTo 52 ≤ magnitude then infinity negative else ofParts negative magnitude

/-- The pattern nearest to `digits * 10 ^ exponent`.  Exponents that put the value far outside the
    finite range are decided without computing the power. -/
def ofDecimal (negative : Bool) (digits : Nat) (exponent : Int) : Binary64 :=
  if digits = 0 then ofParts negative 0
  else if 400 < exponent then infinity negative
  else if exponent + digits.log2 < -400 then ofParts negative 0
  else ofRatio negative (digits * tenTo exponent.toNat) (tenTo (-exponent).toNat)

end Binary64

end Lifeline
