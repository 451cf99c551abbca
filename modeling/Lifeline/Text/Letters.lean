/-! # Letters up to case

Two texts agree up to case when they agree character by character once the letters `A` to `Z` are
made small.  Letters outside this range agree only with themselves.
-/

namespace Lifeline.Text

/-- The characters of a text with `A` to `Z` made small. -/
def folded (cs : List Char) : List Char := cs.map Char.toLower

/-- Whether two texts agree up to the case of `A` to `Z`. -/
def agree (a b : String) : Bool := folded a.toList == folded b.toList

end Lifeline.Text
