import Lifeline.Number.Shortest

/-! # Compact number text

The shortest decimal of a number, of two that are equally near the one with an even last digit, and
always with a point or an exponent: positional with at least one place for values from `1e-5` up to
`1e+16`, and with one digit before the point and an exponent outside of that.
-/

namespace Lifeline

namespace Decimal

/-- One digit, the other digits behind a point if there are any, and the exponent with its sign. -/
def scientific (x : Decimal) : String :=
  match Nat.toDigits 10 x.digits with
  | [] => "0"
  | first :: rest =>
    let point := if rest.isEmpty then [] else '.' :: rest
    let exponent := x.exponent + rest.length
    let sign := if exponent < 0 then "" else "+"
    String.ofList (first :: point) ++ s!"e{sign}{exponent}"

/-- Positional text for a value whose first digit stands at most sixteen places before the point and
    at most five behind it, scientific text for others. -/
def compact (x : Decimal) : String :=
  let lead : Int := (Nat.toDigits 10 x.digits).length + x.exponent
  if lead ≤ -5 ∨ 16 < lead then x.scientific
  else if 0 ≤ x.exponent then x.positional ++ ".0"
  else x.positional

end Decimal

def Binary64.compactText (x : Binary64) : String :=
  let sign := if x.isNegative then "-" else ""
  if x.isZero then sign ++ "0.0" else sign ++ (x.shortest .even).compact

end Lifeline
