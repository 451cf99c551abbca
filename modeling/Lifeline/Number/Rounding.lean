/-! # Rounding a quotient

The nearest whole number to a quotient of natural numbers, and where a quotient goes that lies half
way between two whole numbers.
-/

namespace Lifeline.Number

/-- Where a quotient goes that lies half way between two whole numbers. -/
inductive Tie where
  | up
  | even
deriving DecidableEq, Repr

/-- Whether the whole number above `n / d` is nearer to it than the one below, or is where a tie
    goes. -/
def Tie.goesUp (tie : Tie) (n d : Nat) : Bool :=
  d < 2 * (n % d) || (d = 2 * (n % d) && (tie = .up || n / d % 2 = 1))

def roundHalfEven (n d : Nat) : Nat :=
  if 2 * (n % d) < d then n / d
  else if d < 2 * (n % d) then n / d + 1
  else n / d + n / d % 2

end Lifeline.Number
