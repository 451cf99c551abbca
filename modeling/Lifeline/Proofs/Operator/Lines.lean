import Lifeline.Proofs.Text.Lines
import Mathlib.Data.List.Forall2

/-! # What the lines of an input are

The pieces of an input between its line feeds are its segments, where nothing behind the last line
feed counts as nothing (`segments_eq_divided`).  Up to the first segment that is no text, each gives
the text that it encodes, less the carriage returns at its end: all of them up to two before a line
feed, and up to one at the end of the input (`readings_lines`).  So lines that end in no carriage
return are read back, whichever way each of them is ended (`lines_written`).
-/

namespace Lifeline.Operator

/-! ## Segments -/

/-- The pieces of an input between its line feeds, as segments. -/
def divided (input : Bytes) : List Segment :=
  let pieces := input.splitOn lineFeed
  pieces.dropLast.map (⟨·, true⟩) ++ (pieces.getLast?.filter (· ≠ [])).toList.map (⟨·, false⟩)

theorem segments_eq_divided (input : Bytes) : segments input = divided input := by
  induction input with
  | nil => rfl
  | cons b rest inductionHypothesis =>
    obtain ⟨first, others, split⟩ := List.exists_cons_of_ne_nil (List.splitOn_ne_nil lineFeed rest)
    rw [segments, inductionHypothesis]
    by_cases feeds : b = lineFeed
    · simp [divided, List.splitOn_cons_eq_if_modifyHead, split, feeds]
    · cases others with
      -- no line feed comes, so `b` lengthens the last piece
      | nil =>
        by_cases nothing : first = [] <;>
          simp [divided, List.splitOn_cons_eq_if_modifyHead, split, feeds, nothing, Option.filter]
      | cons second others =>
        simp [divided, List.splitOn_cons_eq_if_modifyHead, split, feeds]

/-! ## Carriage returns -/

def carriageReturn : UInt8 := 0x0D

/-- The most carriage returns that belong to the end of a segment. -/
def Segment.returns (segment : Segment) : Nat := if segment.isEnded then 2 else 1

def dropReturns : Nat → List Char → List Char
  | 0, cs => cs
  | limit + 1, cs => dropReturn (dropReturns limit cs)

/-- Carriage returns are taken off as far as there are some, and no more than the limit. -/
theorem exists_returns (limit : Nat) (cs : List Char) :
    ∃ count ≤ limit, cs = dropReturns limit cs ++ List.replicate count '\r' ∧
      ((dropReturns limit cs).getLast? = some '\r' → count = limit) := by
  induction limit with
  | zero => exact ⟨0, Nat.le_refl 0, by simp [dropReturns], fun _ => rfl⟩
  | succ limit inductionHypothesis =>
    obtain ⟨count, atMost, split, all⟩ := inductionHypothesis
    by_cases ends : (dropReturns limit cs).getLast? = some '\r'
    -- another one stands behind the `limit` ones that were taken off before
    · obtain ⟨front, last⟩ := List.getLast?_eq_some_iff.mp ends
      have dropped : dropReturns (limit + 1) cs = front := by
        simp [dropReturns, dropReturn, last]
      refine ⟨limit + 1, Nat.le_refl _, ?_, fun _ => rfl⟩
      rw [dropped, List.replicate_succ, List.append_cons, ← last]
      rw [all ends] at split
      exact split
    · have kept : dropReturns (limit + 1) cs = dropReturns limit cs := by
        rw [dropReturns, dropReturn, if_neg ends]
      rw [kept]
      exact ⟨count, by omega, split, fun last => absurd last ends⟩

/-- Behind a text that ends in no carriage return, each step takes one off as long as there is
    one. -/
theorem dropReturns_append {cs : List Char} (bare : cs.getLast? ≠ some '\r') (limit count : Nat) :
    dropReturns limit (cs ++ List.replicate count '\r') =
      cs ++ List.replicate (count - limit) '\r' := by
  induction limit with
  | zero => rfl
  | succ limit inductionHypothesis =>
    rw [dropReturns, inductionHypothesis, Nat.sub_add_eq]
    cases count - limit with
    | zero => simp [dropReturn, bare]
    | succ left => simp [dropReturn, List.replicate_succ', ← List.append_assoc]

/-! ## Lines -/

namespace Segment

/-- Whether a segment is a line with some carriage returns behind it, of which there is none left
    that belongs to the end of the segment. -/
def Gives (segment : Segment) (line : String) : Prop :=
  ∃ count ≤ segment.returns,
    segment.bytes = Text.encode line ++ List.replicate count carriageReturn ∧
      (line.toList.getLast? = some '\r' → count = segment.returns)

theorem line?_eq (segment : Segment) :
    segment.line? =
      (Text.decodeWith none 0 segment.bytes).map
        fun cs => String.ofList (dropReturns segment.returns cs) := by
  rw [line?, returns]
  cases segment.isEnded <;> rfl

theorem encodeChars_returns (cs : List Char) (count : Nat) :
    Text.encodeChars (cs ++ List.replicate count '\r') =
      Text.encodeChars cs ++ List.replicate count carriageReturn := by
  rw [Text.encodeChars, List.flatMap_append]
  congr 1
  induction count with
  | zero => rfl
  | succ count inductionHypothesis =>
    rw [List.replicate_succ, List.flatMap_cons, inductionHypothesis]
    rfl

theorem gives_of_line {segment : Segment} {line : String} (read : segment.line? = some line) :
    segment.Gives line := by
  rw [line?_eq] at read
  obtain ⟨cs, decoded, rfl⟩ := Option.map_eq_some_iff.mp read
  obtain ⟨count, atMost, split, all⟩ := exists_returns segment.returns cs
  refine ⟨count, atMost, ?_, ?_⟩
  · rw [Text.encode, String.toList_ofList, ← encodeChars_returns, ← split]
    exact (Text.decodeWith_eq_some_iff.mp decoded).symm
  · rw [String.toList_ofList]
    exact all

theorem not_isValidUTF8_of_line {segment : Segment} (unread : segment.line? = none) :
    ¬ segment.bytes.toByteArray.IsValidUTF8 := by
  intro valid
  obtain ⟨text, encoded⟩ := (Text.isValidUTF8_iff segment.bytes).mp valid
  rw [line?_eq, Text.decodeWith_eq_some_iff.mpr encoded] at unread
  cases unread

end Segment

/-- Whether some lines are what an input holds up to the first segment that is no text. -/
def Readings (input : Bytes) (lines : List String) : Prop :=
  ∃ texts others, divided input = texts ++ others ∧
    List.Forall₂ Segment.Gives texts lines ∧
    ∀ segment ∈ others.head?, ¬ segment.bytes.toByteArray.IsValidUTF8

theorem readings_lines (input : Bytes) : Readings input (lines input) := by
  rw [Readings, ← segments_eq_divided]
  unfold lines
  generalize segments input = parts
  induction parts with
  | nil => exact ⟨[], [], rfl, .nil, by simp⟩
  | cons segment parts inductionHypothesis =>
    rw [linesIn]
    cases read : segment.line? with
    | none =>
      refine ⟨[], segment :: parts, rfl, .nil, ?_⟩
      rintro _ ⟨⟩
      exact Segment.not_isValidUTF8_of_line read
    | some line =>
      obtain ⟨texts, others, rfl, given, unread⟩ := inductionHypothesis
      exact ⟨segment :: texts, others, rfl, .cons (Segment.gives_of_line read) given, unread⟩

/-! ## Lines that were written -/

/-- A line as it is written, with a line feed behind it and perhaps a carriage return before that. -/
def written (line : String) (withReturn : Bool) : Bytes :=
  Text.encode line ++ if withReturn then [carriageReturn, lineFeed] else [lineFeed]

theorem segments_written {line : String} (unbroken : '\n' ∉ line.toList) (withReturn : Bool)
    (rest : Bytes) :
    segments (written line withReturn ++ rest) =
      ⟨Text.encodeChars (line.toList ++ List.replicate withReturn.toNat '\r'), true⟩ ::
        segments rest := by
  have ended : written line withReturn ++ rest =
      Text.encodeChars (line.toList ++ List.replicate withReturn.toNat '\r') ++ lineFeed :: rest := by
    rw [Segment.encodeChars_returns, written, Text.encode]
    cases withReturn <;> simp
  have single : (line.toList ++ List.replicate withReturn.toNat '\r').splitOn '\n' =
      [line.toList ++ List.replicate withReturn.toNat '\r'] := by
    apply List.splitOn_eq_singleton
    simp [unbroken]
  rw [ended, segments_append, Text.splitOn_encodeChars, single]
  rfl

/-- Lines without line feeds, none of which ends in a carriage return, are read back from what is
    written of them. -/
theorem lines_written {texts : List (String × Bool)}
    (bare : ∀ text ∈ texts, '\n' ∉ text.1.toList ∧ text.1.toList.getLast? ≠ some '\r') :
    lines (texts.flatMap fun text => written text.1 text.2) = texts.map (·.1) := by
  unfold lines
  induction texts with
  | nil => rfl
  | cons text texts inductionHypothesis =>
    obtain ⟨unbroken, last⟩ := bare text (by simp)
    have read : (⟨Text.encodeChars (text.1.toList ++ List.replicate text.2.toNat '\r'), true⟩ :
        Segment).line? = some text.1 := by
      have atMost : text.2.toNat - 2 = 0 := by cases text.2 <;> rfl
      rw [Segment.line?_eq, Text.decodeWith_encodeChars, Option.map_some, Segment.returns, if_pos rfl,
        dropReturns_append last, atMost]
      simp
    rw [List.flatMap_cons, segments_written unbroken, linesIn, read, List.map_cons,
      ← inductionHypothesis fun other member => bare other (by simp [member])]

end Lifeline.Operator
