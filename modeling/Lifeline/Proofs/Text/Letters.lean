import Mathlib.Data.List.Forall2
import Lifeline.Proofs.Text.Lines
import Lifeline.Proofs.Text.Trimming
import Lifeline.Text.Letters

/-! # Letters in both cases

Two texts that are made small are equal exactly if they have as many characters and each of them is
the same letter (`folded_eq_iff`).  Only `A` to `Z` have a second case, so a blank character stays
one, and making a text small does not interfere with trimming it.

Comparing the bytes of two texts gives the same answer: `A` to `Z` are bytes by themselves, and the
bytes of all other characters are left alone (`folded_eq_iff_bytes`).
-/

namespace Lifeline.Text

/-- Two characters that are the same, or one of `A` to `Z` and its small letter. -/
inductive SameLetter : Char → Char → Prop where
  | same (c : Char) : SameLetter c c
  | lowered {c d : Char} (capital : 0x41 ≤ c.toNat ∧ c.toNat ≤ 0x5A)
      (small : d.toNat = c.toNat + 0x20) : SameLetter c d
  | raised {c d : Char} (capital : 0x41 ≤ d.toNat ∧ d.toNat ≤ 0x5A)
      (small : c.toNat = d.toNat + 0x20) : SameLetter c d

/-- The second text is the first with some letters in their other case. -/
def Recased (a b : String) : Prop := List.Forall₂ SameLetter a.toList b.toList

/-! ## Characters -/

theorem toNat_toLower (c : Char) :
    c.toLower.toNat =
      if 0x41 ≤ c.toNat ∧ c.toNat ≤ 0x5A then c.toNat + 0x20 else c.toNat := by
  have capital : ('A'.val ≤ c.val ∧ c.val ≤ 'Z'.val) ↔ 0x41 ≤ c.toNat ∧ c.toNat ≤ 0x5A := by
    simp only [UInt32.le_iff_toNat_le, Char.toNat_val]
    rfl
  by_cases between : 0x41 ≤ c.toNat ∧ c.toNat ≤ 0x5A
  · have lowered : c.toLower.val = c.val + ('a'.val - 'A'.val) :=
      congrArg Char.val (dif_pos (capital.mpr between))
    have distance : ('a'.val - 'A'.val).toNat = 0x20 := rfl
    rw [if_pos between, ← Char.toNat_val, lowered, UInt32.toNat_add, Char.toNat_val, distance]
    omega
  · rw [if_neg between]
    exact congrArg Char.toNat (dif_neg (capital.not.mpr between))

theorem sameLetter_iff {c d : Char} : SameLetter c d ↔ c.toLower = d.toLower := by
  rw [← Char.toNat_inj, toNat_toLower, toNat_toLower]
  constructor
  · rintro (_ | ⟨capital, small⟩ | ⟨capital, small⟩)
    · rfl
    · rw [if_pos capital, if_neg (by omega), small]
    · rw [if_pos capital, if_neg (by omega), small]
  · intro alike
    split_ifs at alike with first _ second
    · exact Char.toNat_inj.mp (Nat.add_right_cancel alike) ▸ .same c
    · exact .lowered first alike.symm
    · exact .raised second alike
    · exact Char.toNat_inj.mp alike ▸ .same c

/-- No mark of ASCII is blank. -/
theorem isBlank_of_mark {c : Char} (low : 0x21 ≤ c.toNat) (high : c.toNat ≤ 0x7E) :
    isBlank c = false := by
  simp only [isBlank, blankPoints, List.contains_eq_mem, List.mem_cons, List.not_mem_nil, or_false,
    decide_eq_false_iff_not]
  omega

theorem isBlank_toLower (c : Char) : isBlank c.toLower = isBlank c := by
  have number := toNat_toLower c
  split_ifs at number with capital
  · rw [isBlank_of_mark (by omega) (by omega), isBlank_of_mark (by omega) (by omega)]
  · rw [Char.toNat_inj.mp number]

/-! ## Texts -/

theorem folded_eq_iff {cs ds : List Char} :
    folded cs = folded ds ↔ List.Forall₂ SameLetter cs ds := by
  rw [folded, folded, ← List.forall₂_eq_eq_eq, List.forall₂_map_left_iff,
    List.forall₂_map_right_iff]
  exact ⟨.imp fun _ _ => sameLetter_iff.mpr, .imp fun _ _ => sameLetter_iff.mp⟩

theorem folded_trimChars (cs : List Char) : folded (trimChars cs) = trimChars (folded cs) := by
  have still : isBlank ∘ Char.toLower = isBlank := funext isBlank_toLower
  simp only [trimChars, folded, List.dropWhile_map, still, ← List.map_reverse]

/-! ## Bytes -/

/-- The small letter of a byte that is one of `A` to `Z`, and any other byte itself. -/
def smallByte (b : UInt8) : UInt8 := if 0x41 ≤ b ∧ b ≤ 0x5A then b + 0x20 else b

theorem toNat_smallByte (b : UInt8) :
    (smallByte b).toNat =
      if 0x41 ≤ b.toNat ∧ b.toNat ≤ 0x5A then b.toNat + 0x20 else b.toNat := by
  simp only [smallByte, UInt8.le_iff_toNat_le, UInt8.reduceToNat]
  split_ifs with capital
  · have sum : (b + 0x20).toNat = (b.toNat + 0x20) % 256 := UInt8.toNat_add b 0x20
    omega
  · rfl

/-- The bytes of a small letter are the bytes of the letter made small. -/
theorem encodeChar_toLower (c : Char) :
    String.utf8EncodeChar c.toLower = (String.utf8EncodeChar c).map smallByte := by
  have number := toNat_toLower c
  obtain ⟨small, one⟩ | ⟨wide, bytes⟩ := encodeChar_ascii c
  · have stillSmall : c.toLower.toNat < 0x80 := by
      split_ifs at number <;> omega
    obtain ⟨-, other⟩ | ⟨wide, -⟩ := encodeChar_ascii c.toLower
    · rw [one, other, List.map_singleton, List.singleton_inj, ← UInt8.toNat_inj, toNat_smallByte,
        toNat_ofNat_of_lt (by omega), toNat_ofNat_of_lt (by omega)]
      exact number
    · omega
  · have same : c.toLower = c := by
      rw [← Char.toNat_inj, number, if_neg (by omega)]
    have kept : ∀ b ∈ String.utf8EncodeChar c, smallByte b = b := by
      intro b member
      have high := bytes b member
      rw [← UInt8.toNat_inj, toNat_smallByte, if_neg (by omega)]
    rw [same, List.map_congr_left kept, List.map_id']

theorem encodeChars_injective : Function.Injective encodeChars := by
  intro cs ds same
  have decoded := decodeWith_encodeChars none cs
  rw [same, decodeWith_encodeChars] at decoded
  exact (Option.some.inj decoded).symm

theorem encodeChars_folded (cs : List Char) :
    encodeChars (folded cs) = (encodeChars cs).map smallByte := by
  rw [encodeChars, encodeChars, folded, List.flatMap_map, List.map_flatMap]
  simp only [encodeChar_toLower]

theorem folded_eq_iff_bytes {cs ds : List Char} :
    folded cs = folded ds ↔ (encodeChars cs).map smallByte = (encodeChars ds).map smallByte := by
  rw [← encodeChars_folded, ← encodeChars_folded, encodeChars_injective.eq_iff]

end Lifeline.Text
