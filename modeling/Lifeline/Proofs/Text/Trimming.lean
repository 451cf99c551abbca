import Mathlib.Data.List.DropRight
import Lifeline.Text.Blank

/-! # What trimming leaves

Trimming is a walk from both ends of a text.  What it leaves can be told without the walk: the text
is that in padding, and neither end of it is blank (`isTrimmed_iff`).  There is only one such part of
a text, so padding a text changes nothing of what trimming leaves of it, and a text that leaves
nothing is blank throughout.
-/

namespace Lifeline.Text

/-- The text has no characters but blank ones. -/
def OnlyBlank (s : String) : Prop := ∀ c ∈ s.toList, isBlank c = true

/-- The second text is the first between blank characters. -/
def Pads (core padded : String) : Prop :=
  ∃ front back, OnlyBlank front ∧ OnlyBlank back ∧ padded = front ++ core ++ back

/-- The first text is the part of the second from its first to its last character that is not
    blank. -/
structure IsTrimmed (core s : String) : Prop where
  pads : Pads core s
  first : ∀ c ∈ core.toList.head?, isBlank c = false
  last : ∀ c ∈ core.toList.getLast?, isBlank c = false

variable {core s padded : String}

/-! ## Padding -/

theorem onlyBlank_append {front back : String} (blankFront : OnlyBlank front)
    (blankBack : OnlyBlank back) : OnlyBlank (front ++ back) := by
  intro c member
  rw [String.toList_append, List.mem_append] at member
  exact member.elim (blankFront c) (blankBack c)

theorem Pads.trans {a b c : String} (inner : Pads a b) (outer : Pads b c) : Pads a c := by
  obtain ⟨front, back, blankFront, blankBack, rfl⟩ := inner
  obtain ⟨before, behind, blankBefore, blankBehind, rfl⟩ := outer
  refine ⟨before ++ front, back ++ behind, onlyBlank_append blankBefore blankFront,
    onlyBlank_append blankBack blankBehind, ?_⟩
  simp only [String.append_assoc]

/-! ## The part that is left -/

/-- Walking over padding ends where a part begins or ends that is not blank. -/
theorem trimChars_of_bare {front core back : List Char} (blankFront : ∀ c ∈ front, isBlank c = true)
    (blankBack : ∀ c ∈ back, isBlank c = true) (first : ∀ c ∈ core.head?, isBlank c = false)
    (last : ∀ c ∈ core.getLast?, isBlank c = false) : trimChars (front ++ core ++ back) = core := by
  cases core with
  | nil =>
    have nothing : (front ++ [] ++ back).dropWhile isBlank = [] := by
      rw [List.append_nil, List.dropWhile_append_of_pos blankFront]
      exact List.dropWhile_eq_nil_iff.mpr blankBack
    rw [trimChars, nothing]
    rfl
  | cons c cs =>
    have begins : (front ++ (c :: cs) ++ back).dropWhile isBlank = c :: cs ++ back := by
      rw [List.append_assoc, List.dropWhile_append_of_pos blankFront, List.cons_append,
        List.dropWhile_cons_of_neg (by simp [first c rfl])]
    have ends : (c :: cs).rdropWhile isBlank = c :: cs :=
      List.rdropWhile_eq_self_iff.mpr fun filled => by
        simp [last _ (List.getLast?_eq_getLast_of_ne_nil filled)]
    rw [trimChars, begins, List.reverse_append,
      List.dropWhile_append_of_pos fun c member => blankBack c (List.mem_reverse.mp member)]
    exact ends

theorem exists_trimChars (cs : List Char) :
    ∃ front back, (∀ c ∈ front, isBlank c = true) ∧ (∀ c ∈ back, isBlank c = true) ∧
      cs = front ++ trimChars cs ++ back := by
  refine ⟨cs.takeWhile isBlank, (cs.dropWhile isBlank).rtakeWhile isBlank,
    fun _ member => List.mem_takeWhile_imp member,
    fun _ member => List.mem_rtakeWhile_imp member, ?_⟩
  have ends : trimChars cs ++ (cs.dropWhile isBlank).rtakeWhile isBlank = cs.dropWhile isBlank :=
    List.rdropWhile_append_rtakeWhile
  rw [List.append_assoc, ends, List.takeWhile_append_dropWhile]

theorem first_trimChars {cs : List Char} {c : Char} (first : c ∈ (trimChars cs).head?) :
    isBlank c = false := by
  -- the walk from the end leaves the first character where it is
  obtain ⟨dropped, whole⟩ : trimChars cs <+: cs.dropWhile isBlank := List.rdropWhile_prefix ..
  have start := List.head?_dropWhile_not isBlank cs
  rw [← whole, List.head?_append, Option.mem_def.mp first] at start
  exact start

theorem last_trimChars {cs : List Char} {c : Char} (last : c ∈ (trimChars cs).getLast?) :
    isBlank c = false := by
  obtain ⟨filled, rfl⟩ := List.mem_getLast?_eq_getLast last
  exact Bool.eq_false_iff.mpr (List.rdropWhile_last_not isBlank (cs.dropWhile isBlank) filled)

theorem isTrimmed_trim (s : String) : IsTrimmed (trim s) s := by
  have left : (trim s).toList = trimChars s.toList := String.toList_ofList
  refine ⟨?_, fun c first => ?_, fun c last => ?_⟩
  · obtain ⟨front, back, blankFront, blankBack, whole⟩ := exists_trimChars s.toList
    refine ⟨.ofList front, .ofList back, ?_, ?_, ?_⟩
    · rwa [OnlyBlank, String.toList_ofList]
    · rwa [OnlyBlank, String.toList_ofList]
    · rw [← String.toList_inj, String.toList_append, String.toList_append, String.toList_ofList,
        String.toList_ofList, left]
      exact whole
  · exact first_trimChars (left ▸ first)
  · exact last_trimChars (left ▸ last)

theorem isTrimmed_iff : IsTrimmed core s ↔ core = trim s := by
  constructor
  · rintro ⟨⟨front, back, blankFront, blankBack, rfl⟩, first, last⟩
    rw [trim, String.toList_append, String.toList_append,
      trimChars_of_bare blankFront blankBack first last, String.ofList_toList]
  · rintro rfl
    exact isTrimmed_trim s

/-- Blank characters at the ends of a text make no difference to what trimming leaves of it. -/
theorem Pads.trim_eq (pads : Pads core padded) : trim padded = trim core := by
  obtain ⟨inner, first, last⟩ := isTrimmed_trim core
  exact (isTrimmed_iff.mp ⟨inner.trans pads, first, last⟩).symm

/-! ## Blank texts -/

theorem isTrimmed_empty_iff : IsTrimmed "" s ↔ OnlyBlank s := by
  constructor
  · rintro ⟨⟨front, back, blankFront, blankBack, rfl⟩, -, -⟩
    rw [String.append_empty]
    exact onlyBlank_append blankFront blankBack
  · intro blank
    exact ⟨⟨s, "", blank, nofun, by simp only [String.append_empty]⟩, nofun, nofun⟩

theorem isAllBlank_iff : isAllBlank s = true ↔ OnlyBlank s := by
  rw [← isTrimmed_empty_iff, isTrimmed_iff, eq_comm (a := ""), ← String.toList_eq_nil_iff, trim,
    String.toList_ofList, isAllBlank, List.isEmpty_iff]

instance (s : String) : Decidable (OnlyBlank s) := decidable_of_iff _ isAllBlank_iff

end Lifeline.Text
