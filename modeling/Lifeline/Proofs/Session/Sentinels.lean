import Lifeline.Proofs.Config.Validation
import Lifeline.Proofs.Session.Portions
import Lifeline.Proofs.Session.Rendition

/-! # Heartbeats of the peer

The filter of a session looks at one read at a time, and it hides a read that is the sentinel.  A
sentinel that arrives by itself is therefore hidden exactly if one read has room for all of it.
Validation looks at the sentinel and at the size of the buffer one by one, so it accepts a buffer that
is shorter than the sentinel; the sentinel is then read in portions, and the operator is shown all of
them (`follow_sentinel`).
-/

namespace Lifeline

open World

/-! ## What the filter hides -/

namespace Filter

variable {reserved : Bytes} {room : Nat}

theorem texts_append (filter : Filter) (chunks later : List Bytes) :
    filter.texts (chunks ++ later) = filter.texts chunks ++ filter.texts later := by
  rw [texts, List.filter_append, List.map_append, texts, texts]

theorem texts_prefix {filter : Filter} {chunks later : List Bytes} (front : chunks <+: later) :
    filter.texts chunks <+: filter.texts later := by
  obtain ⟨rest, rfl⟩ := front
  exact ⟨filter.texts rest, (texts_append ..).symm⟩

theorem texts_sentinel (reserved : Bytes) : (sentinel reserved).texts [reserved] = [] := by
  simp [texts, sentinel]

/-- A sentinel that is longer than every portion is none of them. -/
theorem plain_of_cut (spacious : 0 < room) (cut : room < reserved.length) {portion : Bytes}
    (member : portion ∈ portions room reserved) : (sentinel reserved).hides portion = false := by
  have short := length_le_of_mem_portions spacious member
  show (portion == reserved) = false
  rw [beq_eq_false_iff_ne]
  rintro rfl
  omega

theorem texts_of_cut (spacious : 0 < room) (cut : room < reserved.length) {chunks : List Bytes}
    (portioned : ∀ chunk ∈ chunks, chunk ∈ portions room reserved) :
    (sentinel reserved).texts chunks = chunks.map Text.decodeLossy :=
  texts_of_plain fun chunk member => plain_of_cut spacious cut (portioned chunk member)

end Filter

/-! ## What the operator is shown of the chunks -/

theorem filter_chunks_of_not_mem {chunks : List Bytes} (filled : [] ∉ chunks) :
    chunks.filter (· ≠ []) = chunks :=
  List.filter_eq_self.mpr fun chunk member => by simpa using ne_of_mem_of_not_mem member filled

namespace Handles

variable {filter : Filter} {room : Nat} {s : Stage} {w : World}

/-- What the operator was shown is the texts of the first chunks, in order. -/
theorem receivedTexts_prefix (handles : Handles filter room s w) :
    w.receivedTexts <+: filter.texts w.chunks := by
  obtain ⟨handled, unhandled, reads, filled, shown, -⟩ := handles.reads
  rw [shown, chunks, reads, List.filter_append, filter_chunks_of_not_mem filled]
  exact Filter.texts_prefix (List.prefix_append ..)

/-- In a wait no chunk is left to be handled. -/
theorem receivedTexts_eq {deadline : Nat} (handles : Handles filter room (.waiting deadline) w) :
    w.receivedTexts = filter.texts w.chunks := by
  obtain ⟨handled, unhandled, reads, filled, shown, held⟩ := handles.reads
  have none : unhandled = [] := held.eq_nil rfl rfl
  rw [shown, chunks, reads, none, List.append_nil, filter_chunks_of_not_mem filled]

end Handles

namespace World

/-! ## A sentinel that arrives by itself -/

/-- A session that was configured with accepted settings has read all that arrived, no read is
    limited, and then the sentinel arrives by itself.  The session reads it in portions of the size of
    its buffer, `own` being those that are read before anything else happens to the stream.  If the
    sentinel fits into the buffer, it is one portion and no part of it is ever shown: all that the
    operator is shown is what was read before and what is read behind it.  If it does not fit, none of
    the portions is hidden, and where the session is back in its wait, each of them was shown. -/
theorem follow_sentinel (stream : Stream) {c : Config} (accepted : c.validate = .ok ())
    (created : Nat) (course reading later : List Occurrence) :
    let sentinel := Text.encode c.heartbeatSentinel
    let filter := Filter.sentinel sentinel
    let size := c.receiveBufferSize.toNat
    let w := (opened stream c.options filter created).follow course
    let v := (w.after (.act (.stream (.arrive sentinel)))).follow reading
    let x := v.follow later
    w.session.transport.stream.inbound = [] → w.session.transport.stream.readLimit = none →
    (∀ occurrence ∈ reading, occurrence.feeds = false) →
    ∃ own others, x.chunks = w.chunks ++ own ++ others ∧
      own ++ portions size v.session.transport.stream.inbound = portions size sentinel ∧
      (sentinel.length ≤ size → portions size sentinel = [sentinel] ∧
        x.receivedTexts <+: filter.texts w.chunks ++ filter.texts others) ∧
      (size < sentinel.length → ∀ deadline, x.phase = .waiting deadline →
        x.receivedTexts =
          filter.texts w.chunks ++ own.map Text.decodeLossy ++ filter.texts others) := by
  intro sentinel filter size w v x drained unlimited still
  obtain ⟨-, -, -, filled, sized, -⟩ := c.validate_eq_ok_iff.mp accepted
  have spacious : 0 < size := Nat.pos_of_ne_zero fun zero => sized (UInt64.toNat_inj.mp zero)
  have opening := sane_opened stream c.options filter created
  have sane : Sane w.stage w := opening.follow course
  have handles (course : List Occurrence) :=
    follow_keeps Handles.turn Handles.met opening
      (Handles.opened stream c.options filter created) course
  have length : w.session.buffer.length = size := by
    rw [(handles course).size]
    show max 1 size = size
    omega
  obtain ⟨own, read, cut⟩ := follow_arrival sane (length ▸ spacious) drained unlimited sentinel still
  obtain ⟨others, readLater⟩ := chunks_follow ((sane.after _).follow reading) later
  have chunks : x.chunks = w.chunks ++ own ++ others := by rw [← readLater, read]
  rw [length] at cut
  have handled : Handles filter (max 1 size) x.stage x := by
    have all := handles (course ++ .act (.stream (.arrive sentinel)) :: (reading ++ later))
    rwa [follow_append, follow_cons, follow_append] at all
  refine ⟨own, others, chunks, cut, fun fits => ?_, fun longer deadline waiting => ?_⟩
  · have whole := portions_of_fits (Text.encode_ne_nil filled) fits
    refine ⟨whole, ?_⟩
    have hidden : filter.texts own = [] := by
      rw [whole] at cut
      obtain rfl | ⟨rfl, -⟩ : own = [] ∨ own = [sentinel] ∧ _ :=
        List.append_eq_singleton_iff.mp cut |>.imp And.left id
      · rfl
      · exact Filter.texts_sentinel sentinel
    have shown := handled.receivedTexts_prefix
    rwa [chunks, Filter.texts_append, Filter.texts_append, hidden, List.append_nil] at shown
  · have standing : x.stage = .waiting deadline := by
      rw [stage, waiting]
      rfl
    rw [standing] at handled
    have plain : filter.texts own = own.map Text.decodeLossy :=
      Filter.texts_of_cut spacious longer fun chunk member => cut ▸ List.mem_append_left _ member
    rw [handled.receivedTexts_eq, chunks, Filter.texts_append, Filter.texts_append, plain]

/-- A buffer of eight bytes has just enough room for the default sentinel. -/
theorem follow_sentinel_whole :
    let c : Config := { heartbeatInterval := ⟨0⟩, receiveBufferSize := 8 }
    let sentinel := Text.encode c.heartbeatSentinel
    let w := (opened {} c.options (.sentinel sentinel) 0).follow [.begin, .move]
    let v := (w.after (.act (.stream (.arrive sentinel)))).follow [.move, .move]
    c.validate = .ok () ∧ v.chunks = [sentinel] ∧ v.receivedTexts = [] := by
  intro c sentinel w v
  have accepted : c.validate = .ok () := c.validate_eq_ok_iff.mpr (by decide)
  obtain ⟨own, others, chunks, cut, hidden, -⟩ :=
    follow_sentinel {} accepted 0 [.begin, .move] [.move, .move] [] (by decide) (by decide) (by decide)
  obtain ⟨whole, shown⟩ := hidden (by decide)
  rw [follow_nil] at chunks shown
  have drained : v.session.transport.stream.inbound = [] := by decide
  have before : w.chunks = [] := by decide
  have read : v.chunks = [sentinel] := by decide
  have all : own = [sentinel] := by
    rw [whole] at cut
    change own ++ portions _ v.session.transport.stream.inbound = [sentinel] at cut
    rwa [drained, portions_nil, List.append_nil] at cut
  have nothing : others = [] := by
    change v.chunks = w.chunks ++ own ++ others at chunks
    rw [read, before, all] at chunks
    simpa using chunks
  refine ⟨accepted, read, ?_⟩
  change v.receivedTexts <+: Filter.texts _ w.chunks ++ Filter.texts _ others at shown
  rw [before, nothing] at shown
  exact List.prefix_nil.mp shown

/-- The default sentinel does not fit into a buffer of four bytes: accepted as these settings are, both
    halves of it are shown. -/
theorem follow_sentinel_cut :
    let c : Config := { receiveBufferSize := 4 }
    let w := (opened {} c.options (.sentinel (Text.encode "__ping__")) 0).follow [.begin, .move]
    let v := (w.after (.act (.stream (.arrive (Text.encode "__ping__"))))).follow
      [.move, .move, .move, .move]
    c.validate = .ok () ∧ c.heartbeatSentinel = "__ping__" ∧
      w.session.transport.stream.inbound = [] ∧ w.session.transport.stream.readLimit = none ∧
      v.receivedTexts = ["__pi", "ng__"] :=
  ⟨rfl, rfl, by decide, by decide, by decide⟩

end World

end Lifeline
