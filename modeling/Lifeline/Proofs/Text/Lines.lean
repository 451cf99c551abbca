import Lifeline.Operator.Lines
import Lifeline.Proofs.Text.Cuts

/-! # Lines of a text

Line feeds divide a byte list into segments, and they divide the text that it encodes into pieces.
Both divisions are the same, since a byte below 0x80 never stands inside a longer character: the
segments of an encoded text that ends with a line feed are its pieces, each of them encoded
(`segments_encodeChars`).
-/

namespace Lifeline

namespace Text

/-! ## Characters of one byte -/

/-- A character is one byte of its own value, or it is made of bytes from 0x80 on. -/
theorem encodeChar_ascii (c : Char) :
    (c.toNat < 0x80 ∧ String.utf8EncodeChar c = [UInt8.ofNat c.toNat]) ∨
      (0x80 ≤ c.toNat ∧ ∀ b ∈ String.utf8EncodeChar c, 0x80 ≤ b.toNat) := by
  by_cases small : c.toNat < 0x80
  · left
    have atMost : c.toNat ≤ 0x7f := Nat.le_of_lt_succ small
    refine ⟨small, ?_⟩
    simp only [String.utf8EncodeChar]
    exact if_pos atMost
  · right
    refine ⟨Nat.not_lt.mp small, ?_⟩
    obtain ⟨b, inner, bytes, -, others⟩ := encodeChar_cases c
    -- a first byte below 0x80 would be the whole character
    have wide : 0x80 ≤ b.toNat := by
      obtain ⟨_, _, same, whole⟩ := front_encodeChar c []
      rw [bytes, List.cons.injEq] at same
      obtain ⟨rfl, rfl⟩ := same
      refine Nat.not_lt.mp fun narrow => ?_
      rw [front_one narrow, Prod.mk.injEq, Option.some.injEq] at whole
      have value : c.toNat = b.toNat := by
        have valid : b.toNat.isValidChar := .inl (by omega)
        rw [← whole.1, Char.ofNat, dif_pos valid]
        rfl
      omega
    intro x member
    rw [bytes] at member
    obtain rfl | inside := List.mem_cons.mp member
    · exact wide
    · exact ((isInner_iff x).mp (others x inside)).1

/-- A text without control characters is encoded without control bytes. -/
theorem le_of_mem_encodeChars {cs : List Char} (printable : ∀ c ∈ cs, 0x20 ≤ c.toNat) {b : UInt8}
    (member : b ∈ encodeChars cs) : 0x20 ≤ b.toNat := by
  obtain ⟨c, inside, encoded⟩ := List.mem_flatMap.mp member
  obtain ⟨small, one⟩ | ⟨-, wide⟩ := encodeChar_ascii c
  · rw [one, List.mem_singleton] at encoded
    rw [encoded, toNat_ofNat_of_lt (by omega)]
    exact printable c inside
  · have high := wide b encoded
    omega

/-! ## Line feeds -/

open Operator (lineFeed)

theorem encodeChar_lineFeed : String.utf8EncodeChar '\n' = [lineFeed] := rfl

theorem lineFeed_not_mem_encodeChar {c : Char} (other : c ≠ '\n') :
    lineFeed ∉ String.utf8EncodeChar c := by
  intro member
  obtain ⟨small, one⟩ | ⟨-, wide⟩ := encodeChar_ascii c
  · rw [one, List.mem_singleton] at member
    have value : c.toNat = '\n'.toNat := by
      rw [← toNat_ofNat_of_lt (n := c.toNat) (by omega), ← member]
      rfl
    exact other (Char.toNat_inj.mp value)
  · exact absurd (wide lineFeed member) (by decide)

/-- Bytes without a line feed lengthen the first piece of what follows them. -/
theorem splitOn_append_of_not_mem {front : Bytes} (unbroken : lineFeed ∉ front) (back : Bytes) :
    (front ++ back).splitOn lineFeed = (back.splitOn lineFeed).modifyHead (front ++ ·) := by
  induction front with
  | nil =>
    show back.splitOn lineFeed = (back.splitOn lineFeed).modifyHead id
    rw [List.modifyHead_id]
    rfl
  | cons b front inductionHypothesis =>
    simp only [List.mem_cons, not_or] at unbroken
    rw [List.cons_append, List.splitOn_cons_eq_if_modifyHead, if_neg (by simpa using Ne.symm unbroken.1),
      inductionHypothesis unbroken.2, List.modifyHead_modifyHead]
    rfl

/-- Dividing a text and dividing its bytes is the same. -/
theorem splitOn_encodeChars (cs : List Char) :
    (encodeChars cs).splitOn lineFeed = (cs.splitOn '\n').map encodeChars := by
  induction cs with
  | nil => rfl
  | cons c cs inductionHypothesis =>
    have whole : encodeChars (c :: cs) = String.utf8EncodeChar c ++ encodeChars cs :=
      List.flatMap_cons
    by_cases feeds : c = '\n'
    · subst feeds
      rw [whole, encodeChar_lineFeed, List.singleton_append]
      simp [List.splitOn_cons_eq_if_modifyHead, inductionHypothesis]
      rfl
    · rw [whole, splitOn_append_of_not_mem (lineFeed_not_mem_encodeChar feeds), inductionHypothesis,
        List.splitOn_cons_eq_if_modifyHead, if_neg (by simpa using feeds)]
      obtain ⟨first, others, split⟩ := List.exists_cons_of_ne_nil (List.splitOn_ne_nil '\n' cs)
      simp [split, encodeChars]

theorem length_splitOn (line : List Char) : (line.splitOn '\n').length = line.count '\n' + 1 := by
  induction line with
  | nil => rfl
  | cons c line inductionHypothesis =>
    rw [List.splitOn_cons_eq_if_modifyHead]
    by_cases feeds : c = '\n'
    · simp [feeds, inductionHypothesis]
    · simp [feeds, inductionHypothesis]

end Text

/-! ## Segments -/

namespace Operator

/-- The pieces in front of the last line feed are ended segments. -/
theorem segments_append (front back : Bytes) :
    segments (front ++ lineFeed :: back) =
      (front.splitOn lineFeed).map (⟨·, true⟩) ++ segments back := by
  induction front with
  | nil => simp [segments]
  | cons b front inductionHypothesis =>
    rw [List.cons_append, segments, inductionHypothesis, List.splitOn_cons_eq_if_modifyHead]
    by_cases feeds : b = lineFeed
    · simp [feeds]
    · obtain ⟨first, others, split⟩ := List.exists_cons_of_ne_nil (List.splitOn_ne_nil lineFeed front)
      simp [feeds, split]

/-- Lines that are written one after the other, each with a line feed behind it, are read back as
    the pieces of each of them. -/
theorem segments_encodeChars (lines : List (List Char)) :
    segments (lines.flatMap fun line => Text.encodeChars line ++ [lineFeed]) =
      (lines.flatMap (List.splitOn '\n')).map fun piece => ⟨Text.encodeChars piece, true⟩ := by
  induction lines with
  | nil => rfl
  | cons line lines inductionHypothesis =>
    rw [List.flatMap_cons, List.append_assoc, List.singleton_append, segments_append,
      inductionHypothesis, Text.splitOn_encodeChars, List.flatMap_cons, List.map_append, List.map_map]
    rfl

end Operator

end Lifeline
