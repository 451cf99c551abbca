import Lifeline.Number.Arithmetic

/-! # How alike two words are

Two words are compared by the characters that they share at nearly the same positions.  Their
likeness is the mean of three shares: how much of the one word is shared, how much of the other, and
how much of what is shared stands in the same order.  It is one for equal words, and zero for words
that share nothing.
-/

namespace Lifeline.Text

/-! ## Shared characters -/

/-- How far apart the positions of a shared character may be, for words of two lengths. -/
def reach (m n : Nat) : Nat := max m n / 2 - 1

/-- The first position of a character in a word that is within reach and not taken. -/
def partner? (reach : Nat) (word : List Char) (taken : List Nat) (position : Nat) (c : Char) :
    Option Nat :=
  (List.range word.length).find? fun j =>
    position ≤ j + reach && j ≤ position + reach && word[j]? == some c && !taken.contains j

/-- The characters of one word that another one shares, each with its position there.  The first
    `position` characters are accounted for, and some positions of the other word are taken. -/
def partners (reach : Nat) (word : List Char) (taken : List Nat) (position : Nat) :
    List Char → List (Char × Nat)
  | [] => []
  | c :: rest =>
    match partner? reach word taken position c with
    | some j => (c, j) :: partners reach word (j :: taken) (position + 1) rest
    | none => partners reach word taken (position + 1) rest

/-- How many pairs of shared characters stand in another order. -/
def swaps (word : List Char) (shared : List (Char × Nat)) : Nat :=
  let positions := shared.map (·.2)
  let inWord := (List.range word.length).filter positions.contains |>.filterMap (word[·]?)
  ((shared.map (·.1)).zip inWord).countP (fun pair => pair.1 ≠ pair.2) / 2

/-! ## Likeness -/

def likeness (a b : List Char) : Binary64 :=
  if a.isEmpty && b.isEmpty then .ofNat 1
  else
    let shared := partners (reach a.length b.length) b [] 0 a
    let count := shared.length
    if count = 0 then .zero
    else
      let share := fun n m => (Binary64.ofNat n).dividedBy (.ofNat m)
      (((share count a.length).plus (share count b.length)).plus
        (share (count - swaps b shared) count)).dividedBy (.ofNat 3)

/-- Words less alike than this, or just as much, are not taken for each other: seven tenths. -/
def likenessLimit : Binary64 := .ofRatio false 7 10

/-- The words that a word can be taken for, the most alike last. -/
def similar (words : List String) (word : String) : List String :=
  let rated := words.map fun other => (likeness word.toList other.toList, other)
  let close := rated.filter fun x => likenessLimit.bits < x.1.bits
  (close.mergeSort fun x y => x.1.bits ≤ y.1.bits).map (·.2)

end Lifeline.Text
