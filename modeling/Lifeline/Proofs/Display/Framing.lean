import Lifeline.Display.Basic
import Lifeline.Proofs.Event.Json
import Lifeline.Proofs.Text.Lines

/-! # Lines that events are shown as

A writer without a limit takes the rendition of every event whole, so what it holds in the end is
the renditions one after the other.  As JSON each of them is one line: what would break it is
escaped, and the line is read back as its event (`output_json`).  As text the texts of an event stand
in its line as they are, so a line feed in one of them breaks the line (`output_text`).
-/

namespace Lifeline.Display

open Operator (lineFeed segments Segment)

/-! ## Writers without a limit -/

/-- All that is written of an event. -/
def rendition (mode : Mode) (event : Event) : Bytes := (pieces mode event).flatMap Text.encode

/-- What a writer without a limit holds after some events. -/
def output (mode : Mode) (events : List Event) : Bytes := (events.foldl (emit mode) {}).taken

theorem Writer.writeAll_unlimited {w : Writer} (unlimited : w.budget = none) (pieces : List Bytes) :
    w.writeAll pieces = (true, { w with taken := w.taken ++ pieces.flatten }) := by
  induction pieces generalizing w with
  | nil => simp [writeAll]
  | cons piece pieces inductionHypothesis =>
    have written : w.write piece = (true, { w with taken := w.taken ++ piece }) := by
      simp only [write, unlimited]
    have later := inductionHypothesis (w := { w with taken := w.taken ++ piece }) unlimited
    rw [writeAll, written]
    dsimp only
    rw [later]
    simp

theorem emit_unlimited {w : Writer} (unlimited : w.budget = none) (mode : Mode) (event : Event) :
    emit mode w event =
      { w with taken := w.taken ++ rendition mode event, flushes := w.flushes + 1 } := by
  rw [emit, Writer.writeAll_unlimited unlimited, rendition, List.flatMap_def]
  rfl

theorem foldl_emit_unlimited {w : Writer} (unlimited : w.budget = none) (mode : Mode)
    (events : List Event) :
    (events.foldl (emit mode) w).taken = w.taken ++ events.flatMap (rendition mode) := by
  induction events generalizing w with
  | nil => simp
  | cons event events inductionHypothesis =>
    have later := inductionHypothesis
      (w := { w with taken := w.taken ++ rendition mode event, flushes := w.flushes + 1 }) unlimited
    rw [List.foldl_cons, emit_unlimited unlimited, later]
    simp

theorem output_eq (mode : Mode) (events : List Event) :
    output mode events = events.flatMap (rendition mode) := foldl_emit_unlimited rfl mode events

/-! ## JSON -/

theorem encode_line (event : Event) : Text.encode event.line = Text.encodeChars event.lineChars := by
  rw [Text.encode, Event.line, String.toList_ofList]

theorem rendition_json (event : Event) :
    rendition .json event = Text.encodeChars event.lineChars ++ [lineFeed] := by
  have feed : Text.encode "\n" = [lineFeed] := rfl
  rw [rendition, pieces, List.flatMap_cons, List.flatMap_singleton, feed, encode_line]

theorem splitOn_lineChars (event : Event) : event.lineChars.splitOn '\n' = [event.lineChars] := by
  refine List.splitOn_eq_singleton fun feeds => ?_
  exact absurd (Event.le_of_mem_lineChars feeds) (by decide)

/-- The event that is read from a line, if the line is UTF-8 and holds one. -/
def readBack (line : Segment) : Option Event :=
  (Text.decode? line.bytes).bind fun text => (Event.read text).toOption

theorem mapM_readBack_lines (events : List Event) :
    (events.map fun event => (⟨Text.encodeChars event.lineChars, true⟩ : Segment)).mapM readBack =
      some events := by
  have back (event : Event) :
      readBack ⟨Text.encodeChars event.lineChars, true⟩ = some event := by
    rw [readBack, Text.decode?, Text.decodeWith_encodeChars, Option.map_some, Option.bind_some,
      ← Event.line, Event.read_line]
    rfl
  induction events with
  | nil => rfl
  | cons event events inductionHypothesis =>
    rw [List.map_cons, List.mapM_cons, back, inductionHypothesis]
    rfl

/-- Events that are shown as JSON are lines, one for each event and each ended by a line feed.  No
    byte in a line is a control character, and the events are read back from the lines. -/
theorem output_json (events : List Event) :
    let lines := segments (output .json events)
    output .json events = events.flatMap (fun event => Text.encode event.line ++ [lineFeed]) ∧
    lines = events.map (fun event => ⟨Text.encode event.line, true⟩) ∧
    (∀ line ∈ lines, ∀ b ∈ line.bytes, 0x20 ≤ b.toNat) ∧
    lines.mapM readBack = some events := by
  intro lines
  have written : output .json events =
      (events.map Event.lineChars).flatMap (fun line => Text.encodeChars line ++ [lineFeed]) := by
    rw [output_eq, List.flatMap_map, funext rendition_json]
  have divided : lines = events.map (fun event => ⟨Text.encodeChars event.lineChars, true⟩) := by
    show segments (output .json events) = _
    rw [written, Operator.segments_encodeChars, List.flatMap_map, funext splitOn_lineChars,
      ← List.map_eq_flatMap, List.map_map]
    rfl
  simp only [encode_line]
  refine ⟨?_, divided, ?_, ?_⟩
  · rw [written, List.flatMap_map]
  · intro line member b inside
    rw [divided] at member
    obtain ⟨event, -, rfl⟩ := List.mem_map.mp member
    exact Text.le_of_mem_encodeChars (fun _ => Event.le_of_mem_lineChars) inside
  · rw [divided]
    exact mapM_readBack_lines events

/-! ## Text -/

/-- The line that an event is shown as, if it is shown as one. -/
def sentence : Event → Option String
  | .connected peer quitKeyword =>
    some ("Connected to server(" ++ peer ++ "). Type '" ++ quitKeyword ++ "' to quit.")
  | .sent text => some ("Sent: " ++ text)
  | .received text => some ("Received: " ++ text)
  | .skipped => none
  | .farewell => some "bye"
  | .peerClosed => some "Connection closed by server."

/-- All the characters of the texts of an event. -/
def textChars (event : Event) : List Char := event.texts.flatMap String.toList

theorem rendition_text (event : Event) :
    rendition (.text false) event =
      (sentence event).toList.flatMap fun line => Text.encodeChars line.toList ++ [lineFeed] := by
  cases event <;>
    simp [rendition, pieces, textLine, sentence, Text.encode, Text.encodeChars,
      Text.encodeChar_lineFeed]

theorem output_text_eq (events : List Event) :
    output (.text false) events =
      ((events.filterMap sentence).map String.toList).flatMap
        fun line => Text.encodeChars line ++ [lineFeed] := by
  rw [output_eq, List.flatMap_map]
  induction events with
  | nil => rfl
  | cons event events inductionHypothesis =>
    rw [List.flatMap_cons, rendition_text, inductionHypothesis]
    cases shown : sentence event with
    | none => simp [shown]
    | some line => simp [shown]

theorem sentence_eq_none_iff (event : Event) : sentence event = none ↔ event = .skipped := by
  cases event <;> simp [sentence]

/-- A line holds the line feeds of the texts and no others. -/
theorem count_sentence {event : Event} {line : String} (shown : sentence event = some line) :
    line.toList.count '\n' = (textChars event).count '\n' := by
  cases event <;> simp only [sentence, Option.some.injEq, reduceCtorEq] at shown
  all_goals subst shown
  all_goals simp [textChars, Event.texts, List.count_append]

theorem length_sentences (events : List Event) :
    (events.filterMap sentence).length = (events.filter (· ≠ .skipped)).length := by
  induction events with
  | nil => rfl
  | cons event events inductionHypothesis =>
    by_cases skipped : event = .skipped
    · rw [List.filterMap_cons_none ((sentence_eq_none_iff event).mpr skipped), inductionHypothesis]
      simp [skipped]
    · obtain ⟨line, shown⟩ := Option.ne_none_iff_exists'.mp
        (mt (sentence_eq_none_iff event).mp skipped)
      simpa [skipped, shown] using inductionHypothesis

theorem length_pieces (events : List Event) :
    ((events.filterMap sentence).flatMap fun line => line.toList.splitOn '\n').length =
      (events.filterMap sentence).length + (events.flatMap textChars).count '\n' := by
  induction events with
  | nil => rfl
  | cons event events inductionHypothesis =>
    rw [List.flatMap_cons, List.count_append]
    cases shown : sentence event with
    | none =>
      obtain rfl := (sentence_eq_none_iff event).mp shown
      have silent : textChars .skipped = [] := rfl
      simpa [shown, silent] using inductionHypothesis
    | some line =>
      have pieces := Text.length_splitOn line.toList
      rw [count_sentence shown] at pieces
      simp [shown, pieces, inductionHypothesis]
      omega

theorem lineFeed_not_mem_textChars_iff (event : Event) :
    '\n' ∉ textChars event ↔ ∀ text ∈ event.texts, '\n' ∉ text.toList := by
  simp [textChars]

/-- Events that are shown as text elsewhere than on a terminal are ended lines, as many as there are
    events, those that are skipped apart, and one more for each line feed in their texts, at which
    their lines are broken.  So each event is one line exactly if no text holds a line feed. -/
theorem output_text (events : List Event) :
    let lines := segments (output (.text false) events)
    let sentences := events.filterMap sentence
    lines = (sentences.flatMap fun line => line.toList.splitOn '\n').map
      (⟨Text.encodeChars ·, true⟩) ∧
    lines.length =
      (events.filter (· ≠ .skipped)).length + (events.flatMap textChars).count '\n' ∧
    (lines = sentences.map (⟨Text.encode ·, true⟩) ↔
      ∀ event ∈ events, ∀ text ∈ event.texts, '\n' ∉ text.toList) := by
  intro lines sentences
  have divided : lines = (sentences.flatMap fun line => line.toList.splitOn '\n').map
      (⟨Text.encodeChars ·, true⟩) := by
    show segments (output (.text false) events) = _
    rw [output_text_eq, Operator.segments_encodeChars, List.flatMap_map]
  have counted : lines.length = sentences.length + (events.flatMap textChars).count '\n' := by
    rw [divided, List.length_map, length_pieces]
  refine ⟨divided, length_sentences events ▸ counted, ?_, ?_⟩
  · -- as many lines as sentences leave no line feed to be counted
    intro whole event member
    have none : (events.flatMap textChars).count '\n' = 0 := by
      rw [whole, List.length_map] at counted
      omega
    refine (lineFeed_not_mem_textChars_iff event).mp fun feeds => ?_
    exact List.count_eq_zero.mp none (List.mem_flatMap.mpr ⟨event, member, feeds⟩)
  · intro unbroken
    have single : ∀ line ∈ sentences, line.toList.splitOn '\n' = [line.toList] := by
      intro line member
      obtain ⟨event, inside, shown⟩ := List.mem_filterMap.mp member
      refine List.splitOn_eq_singleton (List.count_eq_zero.mp ?_)
      rw [count_sentence shown, List.count_eq_zero]
      exact (lineFeed_not_mem_textChars_iff event).mpr (unbroken event inside)
    rw [divided, List.flatMap_def, List.map_congr_left single, ← List.flatMap_def,
      ← List.map_eq_flatMap, List.map_map]
    rfl

/-- A text of the peer's can forge the line of another event. -/
theorem output_text_forged :
    (segments (output (.text false) [.received "hi\nbye"])).length ≠
        ([Event.received "hi\nbye"].filter (· ≠ .skipped)).length ∧
      output (.text false) [.received "hi\nbye"] =
        output (.text false) [.received "hi", .farewell] := by decide

end Lifeline.Display
