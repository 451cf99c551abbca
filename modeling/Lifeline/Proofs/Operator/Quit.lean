import Lifeline.Operator.Quit
import Lifeline.Proofs.Text.Letters

/-! # Which lines ask to quit

A line is compared with the keyword by its gist, which is what trimming leaves of it with `A` to `Z`
made small (`isQuit_iff_gist`).  All laws of the comparison are laws of the gist: it is the same for
every padding and every case of a text, and it is empty exactly if the text is blank throughout.  A
line therefore asks to quit exactly if the keyword can be turned into it by taking blank characters
off its ends, changing the case of letters and adding blank characters (`isQuit_iff_spells`).
-/

namespace Lifeline.Operator

open Text

/-- The characters of a text that count when it is compared with the keyword. -/
def gist (s : String) : List Char := folded (trim s).toList

/-- The line is the keyword in other padding and with some of its letters in their other case. -/
def Spells (keyword line : String) : Prop :=
  ∃ core typed, Pads core keyword ∧ Recased core typed ∧ Pads typed line

variable {line keyword : String}

/-! ## The gist of a text -/

theorem isQuit_iff_gist : isQuit line keyword = true ↔ gist line = gist keyword := by
  rw [isQuit, agree, beq_iff_eq]
  rfl

theorem isQuit_eq_of_gist {other : String} (same : gist other = gist line) :
    isQuit other keyword = isQuit line keyword ∧ isQuit keyword other = isQuit keyword line := by
  constructor
  · rw [Bool.eq_iff_iff, isQuit_iff_gist, isQuit_iff_gist, same]
  · rw [Bool.eq_iff_iff, isQuit_iff_gist, isQuit_iff_gist, same]

theorem gist_of_pads {core padded : String} (pads : Pads core padded) :
    gist padded = gist core := by
  rw [gist, gist, pads.trim_eq]

theorem gist_of_recased {s t : String} (recased : Recased s t) : gist t = gist s := by
  have small : folded t.toList = folded s.toList := (folded_eq_iff.mpr recased).symm
  simp only [gist, trim, String.toList_ofList, folded_trimChars, small]

theorem gist_eq_nil_iff {s : String} : gist s = [] ↔ OnlyBlank s := by
  rw [gist, folded, List.map_eq_nil_iff, String.toList_eq_nil_iff, ← isTrimmed_empty_iff,
    isTrimmed_iff]
  exact eq_comm

/-! ## The comparison -/

theorem isQuit_equivalence : Equivalence fun a b : String => isQuit a b = true where
  refl _ := isQuit_iff_gist.mpr rfl
  symm same := isQuit_iff_gist.mpr (isQuit_iff_gist.mp same).symm
  trans first second :=
    isQuit_iff_gist.mpr ((isQuit_iff_gist.mp first).trans (isQuit_iff_gist.mp second))

theorem isQuit_iff_trimmed :
    isQuit line keyword = true ↔
      ∃ a b, IsTrimmed a line ∧ IsTrimmed b keyword ∧ Recased a b := by
  simp only [isTrimmed_iff, isQuit_iff_gist, gist, folded_eq_iff]
  constructor
  · exact fun alike => ⟨_, _, rfl, rfl, alike⟩
  · rintro ⟨_, _, rfl, rfl, alike⟩
    exact alike

/-- The comparison can be made byte by byte. -/
theorem isQuit_iff_bytes :
    isQuit line keyword = true ↔
      (encode (trim line)).map smallByte = (encode (trim keyword)).map smallByte := by
  rw [isQuit_iff_gist, gist, gist, folded_eq_iff_bytes]
  rfl

theorem isQuit_iff_spells : isQuit line keyword = true ↔ Spells keyword line := by
  constructor
  · intro asked
    obtain ⟨core, typed, ofKeyword, ofLine, recased⟩ :=
      isQuit_iff_trimmed.mp (isQuit_equivalence.symm asked)
    exact ⟨core, typed, ofKeyword.pads, recased, ofLine.pads⟩
  · rintro ⟨core, typed, ofKeyword, recased, ofLine⟩
    rw [isQuit_iff_gist, gist_of_pads ofLine, gist_of_recased recased, gist_of_pads ofKeyword]

instance (keyword line : String) : Decidable (Spells keyword line) :=
  decidable_of_iff _ isQuit_iff_spells

/-- Letters beyond `A` to `Z` have no second case here, and blank characters inside a line count. -/
example : Spells "exit" "  EXIT \t" ∧ ¬Spells "salió" "SALIÓ" ∧ ¬Spells "exit" "ex it" := by
  decide

/-- A blank line asks to quit only if the keyword is blank. -/
theorem isQuit_of_onlyBlank (blank : OnlyBlank line) (filled : ¬OnlyBlank keyword) :
    isQuit line keyword = false := by
  rw [← Bool.not_eq_true, isQuit_iff_gist, gist_eq_nil_iff.mpr blank, eq_comm, gist_eq_nil_iff]
  exact filled

end Lifeline.Operator
