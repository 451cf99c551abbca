import Lifeline.Number.Binary64

/-! # Rounded arithmetic

Sums, products and quotients of finite numbers that are not negative: the nearest number to the
exact result, the even one of two that are equally near.
-/

namespace Lifeline.Binary64

/-- The rounded sum of two numbers that are not negative. -/
def plus (x y : Binary64) : Binary64 :=
  .ofRatio false (x.numerator * y.denominator + y.numerator * x.denominator)
    (x.denominator * y.denominator)

/-- The rounded product of two numbers that are not negative. -/
def times (x y : Binary64) : Binary64 :=
  .ofRatio false (x.numerator * y.numerator) (x.denominator * y.denominator)

/-- The rounded quotient of two numbers, the first not negative and the second positive. -/
def dividedBy (x y : Binary64) : Binary64 :=
  .ofRatio false (x.numerator * y.denominator) (x.denominator * y.numerator)

def ofNat (n : Nat) : Binary64 := .ofRatio false n 1

def ofInt (n : Int) : Binary64 := .ofRatio (n < 0) n.natAbs 1

end Lifeline.Binary64
