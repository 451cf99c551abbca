import Lifeline.Proofs.Session.Lifecycle
import Lifeline.Proofs.Session.Quiescence
import Lifeline.Proofs.Session.Sends

/-! # The cycle in which a session stops

A session looks for a stop request where a cycle begins, and once one was made it begins no further
wait.  What is left for it to do is then told by the stage at which it stands: of a read, a line and
a probe, in this order, those that its cycle has not come to (`Stage.toDo`).

`Stage.Passes` says of two stages what may happen between them if no wait begins.  It knows no
world, so it is composed along turns, whatever comes from outside between two of them
(`Passes.trans`), and `LastCycle.follow` is the sum of this for every course.
-/

namespace Lifeline

open World
open Stage (Turn Turns)

/-! ## Deeds -/

/-- What a session does at most once in a cycle. -/
inductive Deed where
  | read
  | line
  | probe
deriving DecidableEq, Repr

def Operation.deed? : Operation → Option Deed
  | .send => some .line
  | .heartbeat => some .probe
  | .receive => none

/-- A read that brings something is a deed, and so is the exchange that ends an attempt to send. -/
def Exchange.deed? : Exchange → Option Deed
  | .read _ | .readFailed _ => some .read
  | .wrote op [] | .writeFailed op _ | .flushed op _ => op.deed?
  | .wrote _ (_ :: _) | .shutDown _ => none

/-- A line that is not sent is answered by an event. -/
def Happening.deed? : Happening → Option Deed
  | .exchanged exchange => exchange.deed?
  | .shown .skipped | .shown .farewell => some .line
  | _ => none

def Transport.Progress.deeds (op : Operation) : Transport.Progress → List Deed
  | .pending _ => []
  | .done | .failed _ => op.deed?.toList

namespace Stage

/-- What a session may still do before its cycle is over. -/
def toDo : Stage → List Deed
  | .waiting _ | .taken _ _ => [.read, .line, .probe]
  | .woken _ _ | .sendingLine _ _ _ => [.line, .probe]
  | .answered _ | .checking | .sendingProbe _ _ => [.probe]
  | .created | .atHead | .ended _ => []

/-- Whether the operator's input was found closed. -/
def foundClosed : Stage → Bool
  | .taken _ (some .closed) | .woken (some .closed) _ | .ended .inputClosed => true
  | _ => false

end Stage

/-- However often a send was kept waiting, its attempt ends once. -/
theorem Transport.Sent.deeds {op : Operation} {payload : Bytes} {progress : Transport.Progress}
    {exchanges : List Exchange} (sent : Transport.Sent op payload progress exchanges) :
    (exchanges.map Happening.exchanged).filterMap Happening.deed? = progress.deeds op := by
  induction sent with
  | flushed => cases op <;> rfl
  | held => rfl
  | broken breaks => cases breaks <;> cases op <;> rfl
  | @piece piece rest progress exchanges filled _ inductionHypothesis =>
    cases piece with
    | nil => exact absurd rfl filled
    | cons => exact inductionHypothesis

/-! ## From stage to stage -/

/-- Whether a fault was known at a stage, or the stream told it in what happened since. -/
def Stage.TellsFault (s : Stage) (new : List Happening) (fault : Fault) : Prop :=
  fault ∈ s.fault? ∨ ∃ exchange, .exchanged exchange ∈ new ∧ exchange.fault? = some fault

theorem Stage.TellsFault.append {s : Stage} {new : List Happening} {fault : Fault}
    (tells : s.TellsFault new fault) (later : List Happening) :
    s.TellsFault (new ++ later) fault := by
  obtain known | ⟨exchange, added, same⟩ := tells
  · exact .inl known
  · exact .inr ⟨exchange, List.mem_append_left _ added, same⟩

/-- What may happen between two stages between which no wait begins.  A fault or an ending event has
    its reason in what happened, unless the first stage knew of it. -/
structure Stage.Passes (s t : Stage) (new : List Happening) : Prop where
  deeds : (new.filterMap Happening.deed? ++ t.toDo).Sublist s.toDo
  deadline : ∀ deadline ∈ t.deadline?, deadline ∈ s.deadline?
  events : ∀ event ∈ t.ending, event ∈ s.ending ∨ .shown event ∈ new
  faults : ∀ fault ∈ t.fault?, s.TellsFault new fault

namespace Stage.Passes

variable {s t u : Stage} {new later : List Happening}

theorem idle (none : new.filterMap Happening.deed? = []) : Passes s s new := by
  refine ⟨?_, fun _ same => same, fun _ old => .inl old, fun _ old => .inl old⟩
  rw [none]
  exact .refl _

theorem trans (first : Passes s t new) (second : Passes t u later) : Passes s u (new ++ later) := by
  refine ⟨?_, fun deadline waiting => first.deadline _ (second.deadline _ waiting),
    fun event ends => ?_, fun fault told => ?_⟩
  · -- what the second part does is among what the first one left to do
    rw [List.filterMap_append, List.append_assoc]
    exact (second.deeds.append_left _).trans first.deeds
  · obtain old | added := second.events event ends
    · obtain old | added := first.events event old
      · exact .inl old
      · exact .inr (List.mem_append_left _ added)
    · exact .inr (List.mem_append_right _ added)
  · obtain old | ⟨exchange, added, same⟩ := second.faults fault told
    · exact (first.faults fault old).append later
    · exact .inr ⟨exchange, List.mem_append_right _ added, same⟩

/-- The end of a session is no deed. -/
theorem finish {outcome : Outcome} {ending : List Happening}
    (deeds : (new.filterMap Happening.deed?).Sublist s.toDo)
    (none : ending.filterMap Happening.deed? = [])
    (events : ∀ event ∈ outcome.ending, .shown event ∈ new)
    (faults : ∀ fault ∈ outcome.fault?, s.TellsFault new fault) :
    Passes s (.ended outcome) (new ++ ending) := by
  refine ⟨?_, nofun, fun event ends => .inr (List.mem_append_left _ (events event ends)),
    fun fault told => (faults fault told).append ending⟩
  rw [List.filterMap_append, none, List.append_nil]
  exact (List.append_nil _).symm ▸ deeds

end Stage.Passes

namespace Stage

/-- What a turn does, if it does not begin a wait. -/
def Does (s : Stage) (w : World) (t : Stage) (v : World) : Prop :=
  ∃ new, v.happenings = w.happenings ++ new ∧ s.Passes t new

namespace Does

variable {s t : Stage} {w v : World} {new : List Happening}

/-- The operator's queue is asked, and the wait is not over. -/
theorem ask (same : v.happenings = w.happenings) (toDo : t.toDo = s.toDo)
    (deadline : t.deadline? = s.deadline?) (running : t.ending = []) (sound : t.fault? = none) :
    Does s w t v :=
  ⟨[], same.trans (List.append_nil _).symm, toDo ▸ .refl _, by simp [deadline], by simp [running],
    by simp [sound]⟩

/-- Something happens that neither begins a wait nor ends the session. -/
theorem goOn (more : v.happenings = w.happenings ++ new)
    (deeds : (new.filterMap Happening.deed? ++ t.toDo).Sublist s.toDo)
    (unwaiting : t.deadline? = none) (running : t.ending = [])
    (faults : ∀ fault ∈ t.fault?, s.TellsFault new fault) : Does s w t v :=
  ⟨new, more, deeds, by simp [unwaiting], by simp [running], faults⟩

theorem finish (more : v.happenings = w.happenings ++ new)
    (isOpen : v.session.transport.closed = false) {outcome : Outcome}
    (deeds : (new.filterMap Happening.deed?).Sublist s.toDo)
    (events : ∀ event ∈ outcome.ending, .shown event ∈ new)
    (faults : ∀ fault ∈ outcome.fault?, s.TellsFault new fault) :
    Does s w (.ended outcome) (v.finish outcome) :=
  ⟨_, finish_more more isOpen outcome, .finish deeds rfl events faults⟩

theorem finishSent (isOpen : w.session.transport.closed = false) {op : Operation}
    {payload : Bytes} {fault : Fault} {exchanges : List Exchange} {failure : Option (Cause × Nat)}
    (sent : Transport.Sent op payload (.failed fault) exchanges)
    (awaited : op.deed?.toList.Sublist s.toDo) :
    Does s w (.ended (.fault fault)) ((w.afterSend failure exchanges).finish (.fault fault)) := by
  refine finish (happenings_afterSend w failure exchanges) isOpen ?_ (by simp [Outcome.ending]) ?_
  · rw [sent.deeds]
    exact awaited
  · obtain ⟨exchange, member, told⟩ := sent.exists_fault
    rintro _ ⟨⟩
    exact .inr ⟨exchange, by simpa using member, told⟩

end Does

/-- Only the turn that begins a wait gives a session more to do, and no wait begins once a stop was
    asked for. -/
theorem Turn.does {s t : Stage} {w v : World} (isOpen : w.session.transport.closed = false)
    (turn : Turn s w t v) (requested : w.stop.requested = true) : Does s w t v := by
  have same : w.happenings = w.happenings ++ [] := (List.append_nil _).symm
  cases turn with
  -- the one turn that would give more to do is not made
  | wait quiet =>
    rw [quiet] at requested
    cases requested
  | begin =>
    exact .goOn (happenings_enter ..) (.refl _) rfl rfl (by simp [Stage.fault?])
  | takeLine | takeClose | takeNothing => exact .ask rfl rfl rfl rfl rfl
  | sendLine => exact .goOn same (.refl _) rfl rfl fun _ told => .inl told
  -- without a line, the line of this cycle is left out
  | noLine => exact .goOn same (.cons _ (.refl _)) rfl rfl fun _ told => .inl told
  | noRead | hide | sendProbe => exact .goOn same (.refl _) rfl rfl (by simp [Stage.fault?])
  | rest => exact .goOn same (List.nil_sublist _) rfl rfl (by simp [Stage.fault?])
  | stop | interrupt | close =>
    exact .finish same isOpen (List.nil_sublist _) (by simp [Outcome.ending])
      (by simp [Outcome.fault?])
  | readFailed =>
    exact .finish same isOpen (List.nil_sublist _) (by simp [Outcome.ending])
      fun _ told => .inl told
  | quit =>
    exact .finish (w.happenings_emit .farewell) isOpen (.cons_cons _ (List.nil_sublist _))
      (by simp [Outcome.ending]) (by simp [Outcome.fault?])
  | inputOver =>
    exact .finish (w.happenings_emit .peerClosed) isOpen (List.nil_sublist _)
      (by simp [Outcome.ending]) (by simp [Outcome.fault?])
  | skip => exact .goOn (happenings_emit ..) (.refl _) rfl rfl fun _ told => .inl told
  | display =>
    exact .goOn (happenings_emit ..) (.refl _) rfl rfl (by simp [Stage.fault?])
  | read receives =>
    cases receives with
    | nothing =>
      exact .goOn same (.cons _ (.refl _)) rfl rfl (by simp [Stage.fault?, readFault?])
    | failed =>
      refine .goOn (happenings_exchange ..) (.refl _) rfl rfl fun fault told => ?_
      exact .inr ⟨_, List.mem_singleton.mpr rfl, told⟩
    | bytes =>
      exact .goOn (happenings_fill ..) (.refl _) rfl rfl (by simp [Stage.fault?, readFault?])
  -- the flush is the deed, and the event that confirms the line is no second one
  | @lineSent _ text rest read failure exchanges sent =>
    have more : (((w.afterSend failure exchanges).recordSend w.now).emit (.sent text)).happenings =
        w.happenings ++ (exchanges.map .exchanged ++ [.shown (.sent text)]) := by
      rw [happenings_emit, happenings_recordSend, happenings_afterSend, List.append_assoc]
    refine .goOn more ?_ rfl rfl fun _ told => .inl told
    rw [List.filterMap_append, sent.deeds]
    exact .refl _
  | lineHeld sent =>
    refine .goOn (happenings_afterSend ..) ?_ rfl rfl fun _ told => .inl told
    rw [sent.deeds]
    exact .refl _
  | probeSent sent | probeHeld sent =>
    refine .goOn (happenings_afterSend ..) ?_ rfl rfl (by simp [Stage.fault?])
    rw [sent.deeds]
    exact .refl _
  | lineFailed sent => exact .finishSent isOpen sent (.cons_cons _ (List.nil_sublist _))
  | probeFailed sent => exact .finishSent isOpen sent (.refl _)

/-- The input is found closed when it is asked, and then it is closed for good. -/
theorem Turn.foundClosed {s t : Stage} {w v : World} (turn : Turn s w t v)
    (found : t.foundClosed = true) : s.foundClosed = true ∨ w.operator.ended = true := by
  cases turn with
  | takeClose _ _ ended => exact .inr ended
  | @read _ _ _ operator =>
    obtain _ | _ | _ := operator
    · cases found
    · cases found
    · exact .inl rfl
  | close => exact .inl rfl
  | _ => cases found

theorem Turn.input_ended {s t : Stage} {w v : World} (turn : Turn s w t v) :
    v.operator.ended = w.operator.ended := by
  cases turn with
  | read receives => cases receives <;> rfl
  | _ => rfl

end Stage

/-! ## Once a stop was asked for -/

/-- Why a session that was asked to stop at some stage has ended: because of that, or for a reason
    that lies in that stage, in what happened since or in the operator's queue. -/
def Outcome.HasCause (s : Stage) (new : List Happening) (w : World) : Outcome → Prop
  | .interrupted => True
  | .operatorQuit => .shown .farewell ∈ new
  | .peerClosed => .shown .peerClosed ∈ new
  | .inputClosed => s.foundClosed = true ∨ w.operator.ended = true
  | .fault reason => s.TellsFault new reason

/-- What has become of a session since a world in which a stop was asked for. -/
structure LastCycle (before : World) (s : Stage) (w : World) : Prop where
  requested : w.stop.requested = true
  since : before.stage.Does before s w
  closed : s.foundClosed = true → before.stage.foundClosed = true ∨ w.operator.ended = true

namespace World

variable {w v : World} {s t : Stage}

/-- A stop request is never taken back. -/
theorem requested_apply (requested : w.stop.requested = true) (act : Act) :
    (w.apply act).2.stop.requested = true := by
  simp only [Stop.requested, Bool.or_eq_true] at requested ⊢
  cases act with
  | line text =>
    simp only [apply, enterLine_eq]
    split <;> exact requested
  | ctrlC =>
    simp only [apply, Stop.press]
    split
    · exact requested
    · exact .inl rfl
  | signal =>
    simp only [apply, Stop.deliver]
    split
    · exact .inr rfl
    · exact requested
  | sleep milliseconds =>
    have same (duration : Nat) : ({ w with now := w.now + duration } : World).stop = w.stop := rfl
    exact (same (milliseconds * millisecond)).symm ▸ requested
  | _ => exact requested

theorem requested_after (sane : Sane w.stage w) (requested : w.stop.requested = true)
    (occurrence : Occurrence) : (w.after occurrence).stop.requested = true := by
  cases occurrence with
  | act act => exact requested_apply requested act
  | elapse => exact requested
  | begin => exact (stop_turns (begin_turns sane)).symm ▸ requested
  | move => exact (stop_turns (move_turns sane)).symm ▸ requested

end World

namespace LastCycle

variable {before w v : World} {s t : Stage} {outcome : Outcome}

theorem refl (requested : w.stop.requested = true) : LastCycle w w.stage w :=
  ⟨requested, ⟨[], (List.append_nil _).symm, .idle rfl⟩, .inl⟩

theorem turn (isOpen : w.session.transport.closed = false) (turn : Turn s w t v)
    (last : LastCycle before s w) : LastCycle before t v := by
  obtain ⟨new, more, passes⟩ := last.since
  obtain ⟨later, evenMore, onward⟩ := turn.does isOpen last.requested
  refine ⟨(stop_turn turn).symm ▸ last.requested, ⟨new ++ later, ?_, passes.trans onward⟩,
    fun found => ?_⟩
  · rw [evenMore, more, List.append_assoc]
  · rw [turn.input_ended]
    obtain earlier | ended := turn.foundClosed found
    · exact last.closed earlier
    · exact .inr ended

theorem met {occurrence : Occurrence} (sane : Sane w.stage w)
    (meets : w.Meets occurrence (w.after occurrence)) (last : LastCycle before w.stage w) :
    LastCycle before w.stage (w.after occurrence) := by
  have requested := requested_after sane last.requested occurrence
  obtain ⟨new, more, passes⟩ := last.since
  have closed := last.closed
  generalize w.after occurrence = v at meets requested
  cases meets with
  | @queued text =>
    refine ⟨requested, ⟨new ++ [.queued text], ?_, passes.trans (.idle rfl)⟩, closed⟩
    rw [happenings_enqueue, more, List.append_assoc]
  | closeInput => exact ⟨requested, ⟨new, more, passes⟩, fun _ => .inr rfl⟩
  | stream | refused | pass | request => exact ⟨requested, ⟨new, more, passes⟩, closed⟩

/-- Whatever happens after a stop was asked for, a session does no more than what was left to do in
    its cycle, and waits no more than it did. -/
theorem follow (sane : Sane w.stage w) (requested : w.stop.requested = true)
    (course : List Occurrence) : LastCycle w (w.follow course).stage (w.follow course) :=
  World.follow_keeps_while (P := fun _ _ => True) turn (fun sane meets _ last => last.met sane meets)
    sane (.refl requested) (.of_forall fun _ _ _ => trivial)

/-- A session that was running when it was asked to stop has a cause for its end. -/
theorem hasCause (last : LastCycle before (.ended outcome) w) {new : List Happening}
    (passes : before.stage.Passes (.ended outcome) new) (running : before.stage.isRunning = true) :
    outcome.HasCause before.stage new w := by
  have shown : ∀ event ∈ outcome.ending, Happening.shown event ∈ new := by
    intro event ends
    obtain old | added := passes.events event ends
    · simp [Stage.ending_of_running running] at old
    · exact added
  cases outcome with
  | interrupted => trivial
  | operatorQuit => exact shown .farewell (by simp [Outcome.ending])
  | peerClosed => exact shown .peerClosed (by simp [Outcome.ending])
  | inputClosed => exact last.closed rfl
  | fault reason => exact passes.faults reason rfl

/-- The records that were made since tell of no more than what was left to do, and of the cause of
    the end. -/
theorem exists_records (sane : Sane w.stage w) (running : w.stage.isRunning = true)
    (requested : w.stop.requested = true) (course : List Occurrence) :
    ∃ records, (w.follow course).history = w.history ++ records ∧
      (records.filterMap (·.what.deed?)).Sublist w.stage.toDo ∧
      ∀ outcome, (w.follow course).phase = .ended outcome →
        outcome.HasCause w.stage (records.map (·.what)) (w.follow course) := by
  obtain ⟨records, history⟩ := history_follow sane course
  have last := follow sane requested course
  obtain ⟨new, more, passes⟩ := last.since
  -- the records that were added are those of the happenings that were
  have same : w.happenings ++ records.map (·.what) = w.happenings ++ new := by
    rw [← more, happenings, happenings, ← history, List.map_append]
  obtain rfl := List.append_cancel_left same
  have deeds := passes.deeds
  rw [List.filterMap_map] at deeds
  refine ⟨records, history.symm, (List.sublist_append_left ..).trans deeds, fun outcome ended => ?_⟩
  have standing : (w.follow course).stage = .ended outcome := congrArg Phase.stage ended
  rw [standing] at passes last
  exact last.hasCause passes running

/-- No wait is begun: one that is under way was so all the time since. -/
theorem waiting_before (sane : Sane w.stage w) (requested : w.stop.requested = true)
    (front back : List Occurrence) {deadline : Nat}
    (waiting : (w.follow (front ++ back)).phase = .waiting deadline) :
    (w.follow front).phase = .waiting deadline := by
  -- the stop request stands at the end of the front too, so the back begins no wait
  obtain ⟨_, -, passes⟩ :=
    (follow (sane.follow front) (follow sane requested front).requested back).since
  rw [follow_append] at waiting
  exact deadline?_stage.mp (passes.deadline deadline (deadline?_stage.mpr waiting))

/-- Left to itself, a session that was asked to stop ends, or it is suspended in a write, or in the
    wait that was under way and whose deadline is still to come. -/
theorem settle_cases (sane : Sane w.stage w) (lively : w.session.clock.interval ≠ some 0)
    (begun : w.stage ≠ .created) (requested : w.stop.requested = true) (course : List Occurrence) :
    let v := w.follow course
    v.settle.phase.isOver = true ∨ v.settle.IsHeld ∨ ∃ deadline, w.phase = .waiting deadline ∧
      v.settle.phase = .waiting deadline ∧ v.now < deadline := by
  intro v
  have later : Sane v.stage v := sane.follow course
  have interval := interval_follow sane course
  have settled : v.settle = w.follow (course ++ List.replicate v.work .move) := by
    rw [settle, moves_eq_follow, follow_append]
  obtain created | ended | suspended | held :=
    rests_iff.mp (settle_rests later (interval ▸ lively))
  · have still := begun_follow sane begun (course ++ List.replicate v.work .move)
    rw [← settled, stage, created] at still
    exact absurd rfl still
  · exact .inl ended
  · obtain ⟨deadline, waits⟩ := suspended.2
    have early := suspended.lt_deadline waits
    rw [now_settle later] at early
    have before := waiting_before sane requested [] _ (settled ▸ waits)
    exact .inr (.inr ⟨deadline, before, waits, early⟩)
  · exact .inr (.inl held)

end LastCycle

end Lifeline
