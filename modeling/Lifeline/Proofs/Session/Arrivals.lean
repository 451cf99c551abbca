import Lifeline.Proofs.Session.Course

/-! # What arrives

Reads take bytes from the front of what has arrived, so what was read and what still waits make up
all that ever arrived, and no byte is lost or read twice.  The stream tells that nothing more will
come by an empty read or a failed one, and only once nothing waits; no read follows it.  What was
read in the end is therefore all that arrived before the end was told.  A limit of zero is the one
exception: it makes a read look like the end of input while bytes are withheld.

A course does not say when that was, so `World.heard` counts the bytes along the course, and the
invariant `Inflow` carries the count.
-/

namespace Lifeline

namespace Happening

def read? : Happening → Option Bytes
  | .exchanged (.read bytes) => some bytes
  | _ => none

/-- Whether the stream tells that nothing more can be read. -/
def tellsEnd : Happening → Bool
  | .exchanged (.read []) | .exchanged (.readFailed _) => true
  | _ => false

end Happening

namespace World

def reads (w : World) : List Bytes := w.happenings.filterMap Happening.read?

def endTold (w : World) : Bool := w.happenings.any Happening.tellsEnd

/-- The bytes of a course that arrive before the stream has told of the end. -/
def heard : World → List Occurrence → Bytes
  | _, [] => []
  | w, occurrence :: course =>
    (if w.endTold then [] else occurrence.bytes) ++ heard (w.after occurrence) course

/-- What waits to be read, the limit of a read and the room in the buffer. -/
def intake (w : World) : Bytes × Option Nat × Nat :=
  (w.session.transport.stream.inbound, w.session.transport.stream.readLimit,
    w.session.buffer.length)

variable {w v : World} {new : List Happening}

theorem reads_more (more : v.happenings = w.happenings ++ new) :
    v.reads = w.reads ++ new.filterMap Happening.read? :=
  filterMap_more more Happening.read?

theorem endTold_more (more : v.happenings = w.happenings ++ new) :
    v.endTold = (w.endTold || new.any Happening.tellsEnd) := by
  rw [endTold, more, List.any_append]
  rfl

end World

theorem Transport.Sent.no_read {op : Operation} {payload : Bytes} {progress : Transport.Progress}
    {exchanges : List Exchange} (sent : Transport.Sent op payload progress exchanges) :
    (exchanges.map Happening.exchanged).filterMap Happening.read? = [] ∧
      (exchanges.map Happening.exchanged).any Happening.tellsEnd = false := by
  induction sent with
  | flushed | held => exact ⟨rfl, rfl⟩
  | broken breaks => cases breaks <;> exact ⟨rfl, rfl⟩
  | piece _ _ inductionHypothesis => exact inductionHypothesis

def endsSession : Option ReadOutcome → Bool
  | some (.ok 0) | some (.error _) => true
  | _ => false

/-- Whether a read that ends the session is in hand or has ended it. -/
def Stage.knowsEnd : Stage → Bool
  | .woken _ read | .answered read | .sendingLine _ _ read => endsSession read
  | .ended .peerClosed => true
  | .ended (.fault fault) => fault.op = .receive
  | _ => false

open World
open Stage (Turn)

/-- What was read, measured against what arrived and what was heard of it. -/
structure Inflow (unlimited : Prop) (arrived heard : Bytes) (s : Stage) (w : World) : Prop where
  balance : w.reads.flatten ++ w.session.transport.stream.inbound = arrived
  limit : unlimited → w.session.transport.stream.readLimit ≠ some 0
  room : 0 < w.session.buffer.length
  listening : w.endTold = false → heard = arrived
  whole : w.endTold = true → ∃ withheld, w.reads.flatten ++ withheld = heard ∧
    (unlimited → withheld = [])
  known : s.knowsEnd = true → w.endTold = true
  told : w.endTold = true → s.knowsEnd = true ∨ s.isOver = true

namespace Inflow

variable {unlimited : Prop} {arrived heard : Bytes} {s t : Stage} {w v : World}
  {new : List Happening}

theorem keep (inflow : Inflow unlimited arrived heard s w)
    (more : v.happenings = w.happenings ++ new) (reads : new.filterMap Happening.read? = [])
    (quiet : new.any Happening.tellsEnd = false) (intake : v.intake = w.intake)
    (known : t.knowsEnd = true → s.knowsEnd = true)
    (told : s.knowsEnd = true ∨ s.isOver = true → t.knowsEnd = true ∨ t.isOver = true) :
    Inflow unlimited arrived heard t v := by
  obtain ⟨inbound, limit, room⟩ : v.session.transport.stream.inbound = _ ∧
      v.session.transport.stream.readLimit = _ ∧ v.session.buffer.length = _ := by
    simpa only [World.intake, Prod.mk.injEq] using intake
  have sameReads : v.reads = w.reads := by rw [reads_more more, reads, List.append_nil]
  have sameTold : v.endTold = w.endTold := by rw [endTold_more more, quiet, Bool.or_false]
  refine ⟨?_, ?_, ?_, ?_, ?_, ?_, ?_⟩
  · rw [sameReads, inbound]
    exact inflow.balance
  · rw [limit]
    exact inflow.limit
  · rw [room]
    exact inflow.room
  · rw [sameTold]
    exact inflow.listening
  · rw [sameTold, sameReads]
    exact inflow.whole
  · rw [sameTold]
    exact fun knows => inflow.known (known knows)
  · rw [sameTold]
    exact fun already => told (inflow.told already)

theorem read {deadline : Nat} {operator : Option Operator.Input}
    (inflow : Inflow unlimited arrived heard (.taken deadline operator) w)
    {outcome : Option ReadOutcome} (receives : Receives w outcome v) :
    Inflow unlimited arrived heard (.woken operator outcome) v := by
  -- a session that has heard of the end makes no read
  have untold : w.endTold = false := by
    cases told : w.endTold with
    | false => rfl
    | true =>
      obtain knows | ended := inflow.told told
      · cases knows
      · cases ended
  have all := inflow.listening untold
  cases receives with
  | nothing =>
    exact inflow.keep (List.append_nil _).symm rfl rfl rfl (fun known => known) (fun told => told)
  | @failed cause received =>
    have more := happenings_exchange w w.session.transport.stream [.readFailed cause]
    have told := (endTold_more more).trans (Bool.or_true _)
    have reads := (reads_more more).trans (List.append_nil _)
    refine ⟨?_, inflow.limit, inflow.room, ?_, ?_, fun _ => told, fun _ => .inl rfl⟩
    · rw [reads]
      exact inflow.balance
    · rw [told]
      intro never
      cases never
    · refine fun _ => ⟨[], ?_, fun _ => rfl⟩
      rw [reads, all, ← inflow.balance, received.failed_drained]
  | @bytes stream chunk received =>
    have more := happenings_fill w stream chunk
    have reads : (w.fill stream chunk).reads = w.reads ++ [chunk] := reads_more more
    have told : (w.fill stream chunk).endTold = chunk.isEmpty := by
      rw [endTold_more more, untold]
      cases chunk <;> rfl
    refine ⟨?_, ?_, ?_, fun _ => all, ?_, ?_, ?_⟩
    · rw [reads, ← inflow.balance, ← received.split]
      simp
    · rw [session_fill]
      dsimp only
      rw [received.readLimit]
      exact inflow.limit
    · rw [session_fill]
      have room := inflow.room
      have bounded := received.length_le
      simp only [List.length_append, List.length_drop]
      omega
    -- the read that tells the end finds nothing waiting unless the limit keeps it back
    · intro atEnd
      rw [told, List.isEmpty_iff] at atEnd
      subst atEnd
      refine ⟨w.session.transport.stream.inbound, ?_, fun unlimited =>
        received.drained inflow.room (inflow.limit unlimited)⟩
      rw [reads, all, ← inflow.balance]
      simp
    · intro knows
      rw [told]
      cases chunk with
      | nil => rfl
      | cons => cases knows
    · intro atEnd
      rw [told, List.isEmpty_iff] at atEnd
      subst atEnd
      exact .inl rfl

theorem finish (inflow : Inflow unlimited arrived heard s w)
    (more : v.happenings = w.happenings ++ new) (isOpen : v.session.transport.closed = false)
    (reads : new.filterMap Happening.read? = []) (quiet : new.any Happening.tellsEnd = false)
    (intake : v.intake = w.intake) (outcome : Outcome)
    (known : (Stage.ended outcome).knowsEnd = true → s.knowsEnd = true) :
    Inflow unlimited arrived heard (.ended outcome) (v.finish outcome) := by
  refine inflow.keep (finish_more more isOpen outcome) ?_ ?_ ?_ known fun _ => .inr rfl
  · rw [List.filterMap_append, reads]
    rfl
  · rw [List.any_append, quiet]
    rfl
  · rw [World.intake, session_finish isOpen]
    exact intake

theorem sent (inflow : Inflow unlimited arrived heard s w) {op : Operation} {payload : Bytes}
    {progress : Transport.Progress} {exchanges : List Exchange}
    (sent : Transport.Sent op payload progress exchanges)
    (more : v.happenings = w.happenings ++ exchanges.map .exchanged)
    (intake : v.intake = w.intake) (known : t.knowsEnd = true → s.knowsEnd = true)
    (told : s.knowsEnd = true ∨ s.isOver = true → t.knowsEnd = true ∨ t.isOver = true) :
    Inflow unlimited arrived heard t v :=
  inflow.keep more sent.no_read.1 sent.no_read.2 intake known told

theorem finishSent (inflow : Inflow unlimited arrived heard s w)
    (isOpen : w.session.transport.closed = false) {op : Operation} (outward : op ≠ .receive)
    {payload : Bytes} {fault : Fault} {exchanges : List Exchange} {failure : Option (Cause × Nat)}
    (sent : Transport.Sent op payload (.failed fault) exchanges) :
    Inflow unlimited arrived heard (.ended (.fault fault))
      ((w.afterSend failure exchanges).finish (.fault fault)) := by
  refine inflow.finish (happenings_afterSend w failure exchanges) isOpen sent.no_read.1
    sent.no_read.2 rfl _ fun known => ?_
  -- the fault bears the operation of the send, which is no receive
  obtain ⟨_, _, cause, _, rfl, _, _⟩ := sent.failed_accepted
  exact absurd (of_decide_eq_true known) outward

theorem turn (isOpen : w.session.transport.closed = false) (turn : Turn s w t v)
    (inflow : Inflow unlimited arrived heard s w) : Inflow unlimited arrived heard t v := by
  have same : w.happenings = w.happenings ++ [] := (List.append_nil _).symm
  cases turn with
  | read receives => exact inflow.read receives
  | begin => exact inflow.keep (happenings_enter ..) rfl rfl rfl id id
  | wait | takeLine | takeClose | takeNothing | noRead | hide | rest | sendProbe | sendLine
  | noLine => exact inflow.keep same rfl rfl rfl id id
  | skip | display => exact inflow.keep (happenings_emit ..) rfl rfl rfl id id
  | stop | interrupt => exact inflow.finish same isOpen rfl rfl rfl _ id
  | readFailed => exact inflow.finish same isOpen rfl rfl rfl _ fun _ => rfl
  | close => exact inflow.finish same isOpen rfl rfl rfl _ (by simp [Stage.knowsEnd])
  | inputOver => exact inflow.finish (happenings_emit ..) isOpen rfl rfl rfl _ id
  | quit =>
    exact inflow.finish (happenings_emit ..) isOpen rfl rfl rfl _ (by simp [Stage.knowsEnd])
  | @lineSent _ _ _ read failure exchanges sent =>
    have delivered : Inflow unlimited arrived heard (.answered read)
        ((w.afterSend failure exchanges).recordSend w.now) :=
      inflow.sent sent (happenings_afterSend ..) rfl id id
    exact delivered.keep (happenings_emit ..) rfl rfl rfl id id
  | lineHeld sent | probeSent sent | probeHeld sent =>
    exact inflow.sent sent (happenings_afterSend ..) rfl id id
  | lineFailed sent | probeFailed sent => exact inflow.finishSent isOpen (by simp) sent

/-- Bytes that arrive wait to be read, and count as heard unless the end was told before. -/
theorem widen (inflow : Inflow unlimited arrived heard s w) {bytes : Bytes}
    (reads : v.reads = w.reads) (told : v.endTold = w.endTold)
    (inbound : v.session.transport.stream.inbound =
      w.session.transport.stream.inbound ++ bytes)
    (limit : unlimited → v.session.transport.stream.readLimit ≠ some 0)
    (buffer : v.session.buffer = w.session.buffer) :
    Inflow unlimited (arrived ++ bytes) (heard ++ if w.endTold then [] else bytes) s v := by
  refine ⟨?_, limit, ?_, ?_, ?_, ?_, ?_⟩
  · rw [reads, inbound, ← List.append_assoc, inflow.balance]
  · rw [buffer]
    exact inflow.room
  · intro untold
    rw [told] at untold
    rw [untold, inflow.listening untold]
    rfl
  · intro atEnd
    rw [told] at atEnd
    obtain ⟨withheld, split, nothing⟩ := inflow.whole atEnd
    refine ⟨withheld, ?_, nothing⟩
    rw [reads, atEnd, split]
    exact (List.append_nil _).symm
  · rw [told]
    exact inflow.known
  · rw [told]
    exact inflow.told

theorem met {occurrence : Occurrence} (meets : w.Meets occurrence v)
    (allowed : unlimited → occurrence ≠ .act (.stream (.limitReads 0)))
    (inflow : Inflow unlimited arrived heard w.stage w) :
    Inflow unlimited (arrived ++ occurrence.bytes)
      (heard ++ if w.endTold then [] else occurrence.bytes) w.stage v := by
  have none : w.session.transport.stream.inbound = w.session.transport.stream.inbound ++ [] :=
    (List.append_nil _).symm
  cases meets with
  | stream change =>
    cases change with
    | arrive bytes => exact inflow.widen rfl rfl rfl inflow.limit rfl
    -- the one change that could make a read look like the end of input
    | limitReads limit =>
      refine inflow.widen rfl rfl none (fun unlimited zero => ?_) rfl
      exact allowed unlimited (by rw [Option.some.inj zero])
    | _ => exact inflow.widen rfl rfl none inflow.limit rfl
  | @queued text =>
    have more := w.happenings_enqueue text
    exact inflow.widen ((reads_more more).trans (List.append_nil _))
      ((endTold_more more).trans (Bool.or_false _)) none inflow.limit rfl
  | refused | closeInput => exact inflow.widen rfl rfl none inflow.limit rfl
  | pass quiet | request quiet =>
    rw [quiet]
    exact inflow.widen rfl rfl none inflow.limit rfl

end Inflow

namespace World

theorem follow_inflow_from {unlimited : Prop} {arrived heard : Bytes} {w : World}
    (sane : Sane w.stage w) (inflow : Inflow unlimited arrived heard w.stage w)
    (course : List Occurrence)
    (allowed : ∀ occurrence ∈ course, unlimited → occurrence ≠ .act (.stream (.limitReads 0))) :
    Inflow unlimited (arrived ++ course.flatMap Occurrence.bytes) (heard ++ w.heard course)
      (w.follow course).stage (w.follow course) := by
  induction course generalizing w arrived heard with
  | nil => simpa [World.heard] using inflow
  | cons occurrence course inductionHypothesis =>
    -- the bytes of this occurrence are counted before the rest of the course
    have next : Inflow unlimited (arrived ++ occurrence.bytes)
        (heard ++ if w.endTold then [] else occurrence.bytes) (w.after occurrence).stage
        (w.after occurrence) := by
      obtain meets | ⟨silent, turns⟩ := after_cases sane occurrence
      · rw [meets.stage]
        exact inflow.met meets (allowed occurrence (by simp))
      · have kept := turns.keeps Inflow.turn inflow
        simpa [silent] using kept
    have whole := inductionHypothesis (sane.after occurrence) next
      fun later member => allowed later (by simp [member])
    simpa [World.heard, List.append_assoc] using whole

/-- No byte is lost or read twice, and what was read when the end was told is all that arrived
    before. -/
theorem follow_inflow (stream : Stream) (options : Options) (filter : Filter) (now : Nat)
    (course : List Occurrence) :
    let opened := World.opened stream options filter now
    Inflow (stream.readLimit ≠ some 0 ∧ .act (.stream (.limitReads 0)) ∉ course)
      (stream.inbound ++ course.flatMap Occurrence.bytes) (stream.inbound ++ opened.heard course)
      (opened.follow course).stage (opened.follow course) := by
  intro opened
  refine follow_inflow_from (sane_opened stream options filter now) ?_ course ?_
  · refine ⟨rfl, And.left, ?_, fun _ => rfl, nofun, nofun, nofun⟩
    simp only [World.opened, Session.start, List.length_replicate]
    omega
  · rintro _ member ⟨-, absent⟩ rfl
    exact absent member

end World

end Lifeline
