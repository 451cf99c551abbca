import Lifeline.Proofs.Session.Chunks
import Lifeline.Proofs.Text.Cuts

/-! # What the operator is shown of a text

A read is decoded by itself, with nothing kept of the one before it.  How a text is cut into reads
is decided by the peer, the network and the buffer, so a character may be cut in two.  Its parts are
then shown as broken pieces, and no later read mends them.
-/

namespace Lifeline

open World

/-- In a wait no read is left to be handled, so each one was shown or hidden. -/
theorem Handles.receivedTexts_of_waiting {filter : Filter} {room deadline : Nat} {w : World}
    (handles : Handles filter room (.waiting deadline) w) :
    w.receivedTexts = filter.texts w.reads := by
  obtain ⟨handled, unhandled, reads, -, shown, held⟩ := handles.reads
  have none : unhandled = [] := held.eq_nil rfl rfl
  rw [shown, reads, none, List.append_nil]

theorem Filter.texts_of_plain {filter : Filter} {chunks : List Bytes}
    (plain : ∀ chunk ∈ chunks, filter.hides chunk = false) :
    filter.texts chunks = chunks.map Text.decodeLossy := by
  rw [texts, List.filter_eq_self.mpr]
  intro chunk member
  rw [plain chunk member]
  rfl

namespace World

/-- When a session is back in its wait and has read all that arrived, which was a text, and no read
    was hidden, then what the operator was shown is the text exactly if each read is UTF-8, so that
    no character was cut between two reads.  Each read is shown as its lossy decoding in any case. -/
theorem follow_rendition (stream : Stream) (options : Options) (filter : Filter) (now : Nat)
    (course : List Occurrence) (text : String) :
    let w := (opened stream options filter now).follow course
    ∀ deadline, w.phase = .waiting deadline → w.session.transport.stream.inbound = [] →
      stream.inbound ++ course.flatMap Occurrence.bytes = Text.encode text →
      (∀ chunk ∈ w.reads, filter.hides chunk = false) →
      w.reads.flatten = Text.encode text ∧ w.receivedTexts = w.reads.map Text.decodeLossy ∧
      (String.join w.receivedTexts = text ↔
        ∀ chunk ∈ w.reads, chunk.toByteArray.IsValidUTF8) := by
  intro w deadline waiting drained arrived plain
  have handles : Handles filter (max 1 options.receiveBufferSize) w.stage w :=
    follow_keeps Handles.turn Handles.met (sane_opened stream options filter now)
      (.opened stream options filter now) course
  have inflow := follow_inflow stream options filter now course
  -- nothing waits to be read, so the reads are all that arrived
  have pieces : w.reads.flatten = Text.encode text := by
    have balance := inflow.balance
    rwa [drained, List.append_nil, arrived] at balance
  have standing : w.stage = .waiting deadline := by
    rw [stage, waiting]
    rfl
  rw [standing] at handles
  have shown : w.receivedTexts = w.reads.map Text.decodeLossy := by
    rw [handles.receivedTexts_of_waiting, Filter.texts_of_plain plain]
  exact ⟨pieces, shown, shown ▸ Text.join_decodeLossy_iff pieces⟩

/-- Two letters that are read one by one. -/
theorem follow_rendition_letters :
    let w := (opened {} ⟨none, [0], 1, "quit"⟩ (.sentinel [0]) 0).follow
      [.begin, .move, .act (.stream (.arrive (Text.encode "hi"))), .move, .move, .move, .move]
    w.reads = [Text.encode "h", Text.encode "i"] ∧ String.join w.receivedTexts = "hi" := by
  intro w
  have reads : w.reads = [Text.encode "h", Text.encode "i"] := by decide
  have plain : ∀ chunk ∈ w.reads, (Filter.sentinel [0]).hides chunk = false := by
    rw [reads]
    decide
  obtain ⟨-, -, whole⟩ := follow_rendition {} ⟨none, [0], 1, "quit"⟩ (.sentinel [0]) 0
    [.begin, .move, .act (.stream (.arrive (Text.encode "hi"))), .move, .move, .move, .move] "hi"
    second rfl rfl (by decide) plain
  refine ⟨reads, whole.mpr fun chunk member => (Text.isValidUTF8_iff chunk).mpr ?_⟩
  have read : chunk ∈ [Text.encode "h", Text.encode "i"] := reads ▸ member
  obtain rfl | rfl : chunk = Text.encode "h" ∨ chunk = Text.encode "i" := by simpa using read
  · exact ⟨"h", rfl⟩
  · exact ⟨"i", rfl⟩

/-- A letter of two bytes that are read one by one is shown as two broken pieces. -/
theorem follow_rendition_cut :
    let w := (opened {} ⟨none, [0], 1, "quit"⟩ (.sentinel [0]) 0).follow
      [.begin, .move, .act (.stream (.arrive (Text.encode "é"))), .move, .move, .move, .move]
    w.phase = .waiting second ∧ w.session.transport.stream.inbound = [] ∧
      (∀ chunk ∈ w.reads, (Filter.sentinel [0]).hides chunk = false) ∧
      String.join w.receivedTexts ≠ "é" :=
  ⟨rfl, rfl, by decide, by decide⟩

end World

end Lifeline
