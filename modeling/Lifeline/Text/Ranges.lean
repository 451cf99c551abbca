/-! # Ranges of characters

A class of characters that has no shorter rule is a list of ranges of code points, each with both its
ends.
-/

namespace Lifeline.Text

def liesIn (ranges : List (Nat × Nat)) (c : Char) : Bool :=
  ranges.any fun range => range.1 ≤ c.toNat && c.toNat ≤ range.2

end Lifeline.Text
