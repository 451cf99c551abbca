import Lifeline.Proofs.Session.Arrivals
import Lifeline.Proofs.Text.Utf8

/-! # What becomes of what was read

A read is handled in the cycle that made it, after the operator's input of the same cycle.  It is
then shown as one event, or not at all if the filter hides it.  `Unhandled` tells of the one read
that may not have been handled: it is in hand, or it ended the session, or the operator's input of
its cycle ended the session before it and it is lost.

The buffer keeps bytes of earlier reads behind a shorter one, so the invariant `Handles` says of the
read in hand that it is the front of the buffer.
-/

namespace Lifeline

namespace Happening

def receivedText? : Happening → Option String
  | .shown (.received text) => some text
  | _ => none

end Happening

namespace World

def receivedTexts (w : World) : List String := w.happenings.filterMap Happening.receivedText?

theorem receivedTexts_more {w v : World} {new : List Happening}
    (more : v.happenings = w.happenings ++ new) :
    v.receivedTexts = w.receivedTexts ++ new.filterMap Happening.receivedText? :=
  filterMap_more more Happening.receivedText?

theorem doings_exchanged {w v : World} {exchanges : List Exchange}
    (more : v.happenings = w.happenings ++ exchanges.map .exchanged) :
    v.doings = w.doings ++ exchanges.map .exchanged := by
  rw [doings_more more]
  simp [Happening.line?]

end World

theorem Happening.no_text (exchanges : List Exchange) :
    (exchanges.map exchanged).filterMap receivedText? = [] :=
  filterMap_exchanged (fun _ => rfl) exchanges

/-- What the operator is to be shown of some chunks: heartbeats are hidden. -/
def Filter.texts (filter : Filter) (chunks : List Bytes) : List String :=
  (chunks.filter fun chunk => !filter.hides chunk).map Text.decodeLossy

/-! ## The read in hand -/

open Transport (Accepted)

def Stage.filled? (s : Stage) : Option Nat := s.read?.bind (·.toOption)

/-- What the operator's input has led to since the read in hand. -/
inductive Stage.Answering : Stage → List Happening → Prop where
  | woken {operator : Option Operator.Input} {read : Option ReadOutcome} :
      Answering (.woken operator read) []
  | sendingLine {text : String} {rest : Bytes} {read : Option ReadOutcome}
      (accepted : Accepted (Text.encode text) rest) :
      Answering (.sendingLine text rest read) (accepted.trace .send)
  | answered {read : Option ReadOutcome} {answer : List Happening} :
      Answering (.answered read) answer

/-- What the operator's input leads to where it ends the session. -/
inductive Outcome.Handling : Outcome → List Happening → Prop where
  | closed : Handling .inputClosed []
  | quit : Handling .operatorQuit [.shown .farewell]
  | failed {text : String} {rest : Bytes} {cause : Cause} {failure : Exchange}
      (accepted : Accepted (Text.encode text) rest) (breaks : failure.Breaks .send rest cause) :
      Handling (.fault (.of .send cause)) (accepted.trace .send ++ [.exchanged failure])

/-- The read that has not been handled, if there is one. -/
inductive Unhandled (w : World) : Stage → List Bytes → Prop where
  | nothing {s : Stage} (free : s.filled? = none) (other : s ≠ .ended .peerClosed) :
      Unhandled w s []
  | inHand {s : Stage} {chunk : Bytes} {before answer : List Happening}
      (filled : s.filled? = some chunk.length)
      (front : w.session.buffer.take chunk.length = chunk) (answering : s.Answering answer)
      (last : w.doings = before ++ .exchanged (.read chunk) :: answer) : Unhandled w s [chunk]
  /-- The end of input is no chunk. -/
  | endOfInput : Unhandled w (.ended .peerClosed) [[]]
  /-- Nothing but the handling of the operator's input stands between a lost read and the end. -/
  | lost {outcome : Outcome} {chunk : Bytes} {before handling : List Happening}
      {failure : Option Cause} (handles : outcome.Handling handling)
      (last : w.doings = before ++ .exchanged (.read chunk) ::
        (handling ++ [.entered outcome.state, .exchanged (.shutDown failure)])) :
      Unhandled w (.ended outcome) [chunk]

open World
open Stage (Turn)

namespace Unhandled

variable {s t : Stage} {w v : World} {unhandled : List Bytes} {new : List Happening}

theorem eq_nil (held : Unhandled w s unhandled) (free : s.filled? = none)
    (running : s.isOver = false) : unhandled = [] := by
  cases held with
  | nothing => rfl
  | inHand filled =>
    rw [free] at filled
    cases filled
  | endOfInput | lost => cases running

theorem idle (held : Unhandled w s unhandled) (free : s.filled? = none) (running : s.isOver = false)
    (still : t.filled? = none) (other : t ≠ .ended .peerClosed) : Unhandled v t unhandled := by
  rw [held.eq_nil free running]
  exact .nothing still other

/-- The read in hand waits while the operator's input is handled. -/
theorem goOn (held : Unhandled w s unhandled) (running : s.isOver = false)
    (filled : t.filled? = s.filled?) (other : t ≠ .ended .peerClosed)
    (buffer : v.session.buffer = w.session.buffer) (more : v.doings = w.doings ++ new)
    (answers : ∀ answer, s.Answering answer → t.Answering (answer ++ new)) :
    Unhandled v t unhandled := by
  cases held with
  | nothing free => exact .nothing (filled.trans free) other
  | @inHand _ chunk before answer inHand front answering last =>
    have longer : v.doings = before ++ .exchanged (.read chunk) :: (answer ++ new) := by
      rw [more, last, List.append_assoc]
      rfl
    exact .inHand (filled.trans inHand) (buffer ▸ front) (answers answer answering) longer
  | endOfInput | lost => cases running

/-- The read in hand is lost when the operator's input ends the session. -/
theorem lose (held : Unhandled w s unhandled) (running : s.isOver = false)
    (more : v.doings = w.doings ++ new) (isOpen : v.session.transport.closed = false)
    {outcome : Outcome} (other : outcome ≠ .peerClosed)
    (handles : ∀ answer, s.Answering answer → outcome.Handling (answer ++ new)) :
    Unhandled (v.finish outcome) (.ended outcome) unhandled := by
  cases held with
  | nothing => exact .nothing rfl (by simpa using other)
  | @inHand _ chunk before answer _ _ answering last =>
    have ended := doings_more (happenings_finish isOpen outcome)
    have longer : (v.finish outcome).doings = before ++ .exchanged (.read chunk) ::
        ((answer ++ new) ++ [.entered outcome.state,
          .exchanged (.shutDown v.session.transport.stream.shutdownFailure)]) := by
      rw [ended, more, last, List.append_assoc, List.append_assoc, List.append_assoc]
      rfl
    exact .lost (handles answer answering) longer
  | endOfInput | lost => cases running

theorem frame (held : Unhandled w s unhandled) (buffer : v.session.buffer = w.session.buffer)
    (doings : v.doings = w.doings) : Unhandled v s unhandled := by
  cases held with
  | nothing free other => exact .nothing free other
  | inHand filled front answering last =>
    exact .inHand filled (buffer ▸ front) answering (doings.trans last)
  | endOfInput => exact .endOfInput
  | lost handles last => exact .lost handles (doings.trans last)

end Unhandled

/-! ## The invariant -/

structure Handles (filter : Filter) (room : Nat) (s : Stage) (w : World) : Prop where
  given : w.session.filter = filter
  size : w.session.buffer.length = room
  bounded : ∀ chunk ∈ w.reads, chunk.length ≤ room
  reads : ∃ handled unhandled, w.reads = handled ++ unhandled ∧ [] ∉ handled ∧
    w.receivedTexts = filter.texts handled ∧ Unhandled w s unhandled

namespace Handles

variable {filter : Filter} {room : Nat} {s t : Stage} {w v : World} {new : List Happening}

theorem keep (handles : Handles filter room s w) (more : v.happenings = w.happenings ++ new)
    (quiet : new.filterMap Happening.read? = [])
    (silent : new.filterMap Happening.receivedText? = [])
    (settings : v.session.settings = w.session.settings)
    (buffer : v.session.buffer = w.session.buffer)
    (fate : ∀ unhandled, Unhandled w s unhandled → Unhandled v t unhandled) :
    Handles filter room t v := by
  obtain ⟨handled, unhandled, split, filled, shown, held⟩ := handles.reads
  have reads : v.reads = w.reads := by rw [reads_more more, quiet, List.append_nil]
  refine ⟨(congrArg Prod.fst settings).trans handles.given, ?_, ?_, handled, unhandled, ?_, filled,
    ?_, fate unhandled held⟩
  · rw [buffer]
    exact handles.size
  · rw [reads]
    exact handles.bounded
  · rw [reads, split]
  · rw [receivedTexts_more more, silent, shown, List.append_nil]

theorem pass (handles : Handles filter room s w) (more : v.happenings = w.happenings ++ new)
    (quiet : new.filterMap Happening.read? = [])
    (silent : new.filterMap Happening.receivedText? = [])
    (settings : v.session.settings = w.session.settings)
    (buffer : v.session.buffer = w.session.buffer) (free : s.filled? = none)
    (running : s.isOver = false) (still : t.filled? = none) (other : t ≠ .ended .peerClosed) :
    Handles filter room t v :=
  handles.keep more quiet silent settings buffer
    fun _ held => held.idle free running still other

theorem finish (handles : Handles filter room s w) (more : v.happenings = w.happenings ++ new)
    (isOpen : v.session.transport.closed = false)
    (quiet : new.filterMap Happening.read? = [])
    (silent : new.filterMap Happening.receivedText? = [])
    (settings : v.session.settings = w.session.settings)
    (buffer : v.session.buffer = w.session.buffer) (outcome : Outcome)
    (fate : ∀ unhandled, Unhandled w s unhandled →
      Unhandled (v.finish outcome) (.ended outcome) unhandled) :
    Handles filter room (.ended outcome) (v.finish outcome) := by
  refine handles.keep (finish_more more isOpen outcome) ?_ ?_ settings buffer fate
  · rw [List.filterMap_append, quiet]
    rfl
  · rw [List.filterMap_append, silent]
    rfl

theorem read {deadline : Nat} {operator : Option Operator.Input}
    (handles : Handles filter room (.taken deadline operator) w) {outcome : Option ReadOutcome}
    (receives : Receives w outcome v) : Handles filter room (.woken operator outcome) v := by
  cases receives with
  | nothing =>
    exact handles.pass (List.append_nil _).symm rfl rfl rfl rfl rfl rfl rfl (by simp)
  | failed => exact handles.pass (happenings_exchange ..) rfl rfl rfl rfl rfl rfl rfl (by simp)
  | @bytes stream chunk received =>
    have more := happenings_fill w stream chunk
    have reads : (w.fill stream chunk).reads = w.reads ++ [chunk] := reads_more more
    have doings : (w.fill stream chunk).doings = w.doings ++ [.exchanged (.read chunk)] :=
      doings_more more
    have short : chunk.length ≤ room := handles.size ▸ received.length_le
    obtain ⟨handled, unhandled, split, filled, shown, held⟩ := handles.reads
    -- no read was in hand, so the new chunk is the only one that waits
    obtain rfl := held.eq_nil rfl rfl
    refine ⟨handles.given, ?_, ?_, handled, [chunk], ?_, filled, ?_, ?_⟩
    · rw [session_fill]
      simp only [List.length_append, List.length_drop, handles.size]
      omega
    · rw [reads]
      intro some member
      obtain old | new := List.mem_append.mp member
      · exact handles.bounded some old
      · exact List.mem_singleton.mp new ▸ short
    · rw [reads, split, List.append_nil]
    · rw [receivedTexts_more more, shown]
      exact List.append_nil _
    · exact .inHand rfl List.take_left .woken doings

theorem handle {n : Nat} (handles : Handles filter room (.answered (some (.ok (n + 1)))) w)
    (more : v.happenings = w.happenings ++ new) (quiet : new.filterMap Happening.read? = [])
    (settings : v.session.settings = w.session.settings)
    (buffer : v.session.buffer = w.session.buffer)
    (texts : new.filterMap Happening.receivedText? =
      filter.texts [w.session.buffer.take (n + 1)]) : Handles filter room .checking v := by
  obtain ⟨handled, unhandled, split, filled, shown, held⟩ := handles.reads
  have reads : v.reads = w.reads := by rw [reads_more more, quiet, List.append_nil]
  cases held with
  | nothing free => cases free
  | @inHand _ chunk _ _ count front =>
    -- what is handled is the front of the buffer, and the invariant says that it is the chunk
    obtain rfl : w.session.buffer.take (n + 1) = chunk := by
      rw [Option.some.inj count]
      exact front
    refine ⟨(congrArg Prod.fst settings).trans handles.given, ?_, ?_,
      handled ++ [w.session.buffer.take (n + 1)], [], ?_, ?_, ?_, .nothing rfl (by simp)⟩
    · rw [buffer]
      exact handles.size
    · rw [reads]
      exact handles.bounded
    · rw [reads, split, List.append_nil]
    · simp only [List.mem_append, not_or, List.mem_singleton]
      refine ⟨filled, fun none => ?_⟩
      rw [← none] at count
      cases count
    · rw [receivedTexts_more more, shown, texts, Filter.texts, Filter.texts, Filter.texts,
        List.filter_append, List.map_append]

theorem opened (stream : Stream) (options : Options) (filter : Filter) (now : Nat) :
    Handles filter (max 1 options.receiveBufferSize) .created
      (World.opened stream options filter now) :=
  ⟨rfl, List.length_replicate, nofun, [], [], rfl, nofun, rfl, .nothing rfl (by simp)⟩

/-- No turn leaves a chunk unhandled unless the operator's input ends the session. -/
theorem turn (isOpen : w.session.transport.closed = false) (turn : Turn s w t v)
    (handles : Handles filter room s w) : Handles filter room t v := by
  have settings := turn.settings
  have same : w.happenings = w.happenings ++ [] := (List.append_nil _).symm
  cases turn with
  | read receives => exact handles.read receives
  | begin => exact handles.pass (happenings_enter ..) rfl rfl rfl rfl rfl rfl rfl (by simp)
  | wait | takeLine | takeClose | takeNothing | noRead | rest | sendProbe =>
    exact handles.pass same rfl rfl rfl rfl rfl rfl rfl (by simp)
  | stop | interrupt | readFailed =>
    exact handles.finish same isOpen rfl rfl rfl rfl _ fun _ held => held.idle rfl rfl rfl (by simp)
  | hide hidden =>
    exact handles.handle same rfl rfl rfl (by simp [Filter.texts, ← handles.given, hidden])
  | display plain =>
    refine handles.handle (happenings_emit ..) rfl rfl rfl ?_
    simp [Filter.texts, ← handles.given, plain, Happening.receivedText?]
  | noLine =>
    refine handles.keep same rfl rfl rfl rfl fun _ held => ?_
    exact held.goOn rfl rfl (by simp) rfl (doings_more same) fun _ _ => .answered
  | skip =>
    have more := w.happenings_emit .skipped
    refine handles.keep more rfl rfl rfl rfl fun _ held => ?_
    exact held.goOn rfl rfl (by simp) rfl (doings_more more) fun _ _ => .answered
  | @sendLine _ text read =>
    refine handles.keep same rfl rfl rfl rfl fun _ held => ?_
    refine held.goOn rfl rfl (by simp) rfl (doings_more same) fun _ answering => ?_
    cases answering
    exact .sendingLine (.nothing (Text.encode text))
  | @lineSent _ text rest read failure exchanges sent =>
    have more := happenings_afterSend w failure exchanges
    have delivered : Handles filter room (.answered read)
        ((w.afterSend failure exchanges).recordSend w.now) :=
      handles.keep more sent.no_read.1 (Happening.no_text _) rfl rfl fun _ held =>
        held.goOn rfl rfl (by simp) rfl (doings_exchanged more) fun _ _ => .answered
    have shown := happenings_emit ((w.afterSend failure exchanges).recordSend w.now) (.sent text)
    refine delivered.keep shown rfl rfl rfl rfl fun _ held => ?_
    exact held.goOn rfl rfl (by simp) rfl (doings_more shown) fun _ _ => .answered
  | @lineHeld _ text rest left read failure exchanges sent =>
    have more := happenings_afterSend w failure exchanges
    refine handles.keep more sent.no_read.1 (Happening.no_text _) rfl rfl fun _ held => ?_
    refine held.goOn rfl rfl (by simp) rfl (doings_exchanged more) fun _ answering => ?_
    -- the answer to the operator so far is a longer front of the same line
    obtain ⟨later, rfl⟩ := sent.pending_accepted
    cases answering with
    | sendingLine accepted =>
      have longer : (Stage.sendingLine text left read).Answering
          ((accepted.append later).trace .send) := .sendingLine _
      rwa [Accepted.trace_append] at longer
  | @lineFailed _ text rest read failure exchanges fault sent =>
    have more := happenings_afterSend w failure exchanges
    refine handles.finish more isOpen sent.no_read.1 (Happening.no_text _) rfl rfl _
      fun _ held => ?_
    refine held.lose rfl (doings_exchanged more) isOpen (by simp) fun _ answering => ?_
    obtain ⟨left, later, cause, reason, rfl, breaks, rfl⟩ := sent.failed_accepted
    cases answering with
    | sendingLine accepted =>
      have failed := Outcome.Handling.failed (accepted.append later) breaks
      rw [Accepted.trace_append, List.append_assoc] at failed
      simpa [Accepted.trace] using failed
  | probeSent sent | probeHeld sent =>
    exact handles.pass (happenings_afterSend ..) sent.no_read.1 (Happening.no_text _) rfl rfl rfl
      rfl rfl (by simp)
  | @probeFailed _ rest due failure exchanges fault sent =>
    have more := happenings_afterSend w failure exchanges
    exact handles.finish more isOpen sent.no_read.1 (Happening.no_text _) rfl rfl (.fault fault)
      fun _ held => held.idle rfl rfl rfl (by simp)
  | close =>
    refine handles.finish same isOpen rfl rfl rfl rfl _ fun _ held => ?_
    -- the input was closed before the read could be handled
    refine held.lose rfl (doings_more same) isOpen (by simp) fun _ answering => ?_
    cases answering
    exact .closed
  | quit =>
    have more := w.happenings_emit .farewell
    refine handles.finish more isOpen rfl rfl rfl rfl _ fun _ held => ?_
    refine held.lose rfl (doings_more more) isOpen (by simp) fun _ answering => ?_
    cases answering
    exact .quit
  | inputOver =>
    have more := finish_more (w.happenings_emit .peerClosed) isOpen .peerClosed
    refine handles.keep more rfl rfl rfl rfl fun _ held => ?_
    cases held with
    | nothing free => cases free
    | @inHand _ chunk _ _ count =>
      -- the read in hand returned no bytes: it told the end of input
      obtain rfl : chunk = [] := List.eq_nil_of_length_eq_zero (Option.some.inj count).symm
      exact .endOfInput

theorem met {occurrence : Occurrence} (meets : w.Meets occurrence v)
    (handles : Handles filter room w.stage w) : Handles filter room w.stage v := by
  have same : w.happenings = w.happenings ++ [] := (List.append_nil _).symm
  cases meets with
  | stream | refused | closeInput | pass | request =>
    exact handles.keep same rfl rfl rfl rfl fun _ held => held.frame rfl rfl
  | @queued text =>
    have more := w.happenings_enqueue text
    refine handles.keep more rfl rfl rfl rfl fun _ held => ?_
    exact held.frame rfl ((doings_more more).trans (List.append_nil _))

end Handles

/-! ## All that a session reads -/

/-- Whatever happens in whatever order, the reads of a session are chunks that were handled one
    after the other and at most one more, which `Unhandled` tells of and which alone can be empty.
    No read is longer than the buffer; together they are the front of all that arrived, and once
    the end is known, the whole of what arrived before the end was told, unless a limit of zero made
    a read look like the end of input.  The operator is shown the lossy decoding of each handled
    chunk that the filter does not hide, which is the chunk itself exactly if it is UTF-8. -/
theorem World.follow_chunks (stream : Stream) (options : Options) (filter : Filter) (now : Nat)
    (course : List Occurrence) :
    let opened := World.opened stream options filter now
    let w := opened.follow course
    ∃ handled unhandled,
      w.reads = handled ++ unhandled ∧ Unhandled w w.stage unhandled ∧
      [] ∉ handled ∧ (∀ chunk ∈ w.reads, chunk.length ≤ max 1 options.receiveBufferSize) ∧
      w.receivedTexts = (handled.filter fun chunk => !filter.hides chunk).map Text.decodeLossy ∧
      (∀ chunk ∈ handled, Text.encode (Text.decodeLossy chunk) = chunk ↔
        chunk.toByteArray.IsValidUTF8) ∧
      w.reads.flatten <+: stream.inbound ++ course.flatMap Occurrence.bytes ∧
      (w.stage.knowsEnd = true → ∃ withheld,
        w.reads.flatten ++ withheld = stream.inbound ++ opened.heard course ∧
        (stream.readLimit ≠ some 0 ∧ .act (.stream (.limitReads 0)) ∉ course → withheld = [])) := by
  intro opened w
  have handles : Handles filter (max 1 options.receiveBufferSize) w.stage w :=
    World.follow_keeps Handles.turn Handles.met (World.sane_opened stream options filter now)
      (.opened stream options filter now) course
  have inflow := World.follow_inflow stream options filter now course
  obtain ⟨handled, unhandled, split, filled, shown, held⟩ := handles.reads
  refine ⟨handled, unhandled, split, held, filled, handles.bounded, shown, ?_, ?_, ?_⟩
  · exact fun chunk _ => Text.encode_decodeLossy_iff chunk
  · exact ⟨_, inflow.balance⟩
  · exact fun knows => inflow.whole (inflow.known knows)

/-- The quit command ends the session before the chunk of its cycle is handled. -/
example :
    let w := (World.opened {} ⟨none, [], 4, "quit"⟩ (.sentinel []) 0).follow
      [.act (.line "quit"), .act (.stream (.arrive [65])), .begin, .move, .move]
    w.reads = [[65]] ∧ w.receivedTexts = [] := by decide

end Lifeline
