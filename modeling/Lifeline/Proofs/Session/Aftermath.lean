import Lifeline.Proofs.Session.Chunks
import Lifeline.Proofs.Session.Lifecycle

/-! # What follows a failure

A write or a flush that fails ends the session at once.  A read that fails is handled in its cycle,
after the operator's input, so the answer to that input stands between the failure and the end; and
where that input ends the session by itself, the failure of the read is lost.

The invariant is `Aftermath`: it cuts what the session did at the first exchange that failed and says
what may follow it.  As nothing that begins a cycle may, the session ends in the cycle of its first
failure.
-/

namespace Lifeline

open World
open Stage (Turn)
open Transport (Accepted Sent)

/-! ## Failures -/

/-- The fault that an exchange with the stream told. -/
def Happening.fault? : Happening → Option Fault
  | .exchanged exchange => exchange.fault?
  | _ => none

/-- Nothing that was asked of the stream failed. -/
def Faultless (happenings : List Happening) : Prop :=
  ∀ happening ∈ happenings, happening.fault? = none

theorem Faultless.nil : Faultless [] := nofun

theorem Faultless.append {old new : List Happening} (front : Faultless old) (back : Faultless new) :
    Faultless (old ++ new) :=
  List.forall_mem_append.mpr ⟨front, back⟩

theorem Transport.Accepted.faultless_trace {payload rest : Bytes} (op : Operation)
    (accepted : Accepted payload rest) : Faultless (accepted.trace op) := by
  intro happening member
  obtain ⟨exchange, asked, rfl⟩ := List.mem_map.mp member
  obtain ⟨piece, taken, rfl⟩ := List.mem_map.mp asked
  -- only a piece without bytes would count as a failure
  cases piece with
  | nil => exact absurd taken accepted.filled
  | cons => rfl

theorem Transport.Sent.faultless {op : Operation} {payload : Bytes} {progress : Transport.Progress}
    {exchanges : List Exchange} (sent : Sent op payload progress exchanges)
    (sound : ∀ fault, progress ≠ .failed fault) : Faultless (exchanges.map .exchanged) := by
  induction sent with
  | flushed => simp [Faultless, Happening.fault?, Exchange.fault?]
  | held => nofun
  | broken => exact absurd rfl (sound _)
  | @piece piece _ _ _ filled _ inductionHypothesis =>
    cases piece with
    | nil => exact absurd rfl filled
    | cons => exact List.forall_mem_cons.mpr ⟨rfl, inductionHypothesis sound⟩

/-! ## Between a failed read and its handling -/

/-- What the operator's input leads to where it does not end the session. -/
inductive Attended : List Happening → Prop where
  | nothing : Attended []
  | skipped : Attended [.shown .skipped]
  | sent {text : String} (accepted : Accepted (Text.encode text) []) :
      Attended (accepted.trace .send ++ [.exchanged (.flushed .send none), .shown (.sent text)])

/-- What the operator's input has led to since the read in hand, not having ended the session. -/
inductive Stage.Attending : Stage → List Happening → Prop where
  | woken {operator : Option Operator.Input} {read : Option ReadOutcome} :
      Attending (.woken operator read) []
  | sendingLine {text : String} {rest : Bytes} {read : Option ReadOutcome}
      (accepted : Accepted (Text.encode text) rest) :
      Attending (.sendingLine text rest read) (accepted.trace .send)
  | answered {read : Option ReadOutcome} {answer : List Happening} (attended : Attended answer) :
      Attending (.answered read) answer

theorem Stage.fault?_of_running {s : Stage} (running : s.isOver = false) :
    s.fault? = readFault? s.read? := by
  cases s <;> first | rfl | cases running

/-- All that a session did since the first exchange that failed. -/
inductive Aftermath (w : World) : Stage → Prop where
  | sound {s : Stage} (calm : s.fault? = none) (faultless : Faultless w.doings) : Aftermath w s
  /-- A read failed in this cycle, and the operator's input is being handled. -/
  | awaited {s : Stage} {cause : Cause} {before answer : List Happening}
      (faultless : Faultless before) (inHand : s.read? = some (.error (.of .receive cause)))
      (attending : s.Attending answer)
      (last : w.doings = before ++ .exchanged (.readFailed cause) :: answer) : Aftermath w s
  | handled {cause : Cause} {before answer : List Happening} {failure : Option Cause}
      (faultless : Faultless before) (attended : Attended answer)
      (last : w.doings = before ++ .exchanged (.readFailed cause) ::
        (answer ++ [.entered .closedError, .exchanged (.shutDown failure)])) :
      Aftermath w (.ended (.fault (.of .receive cause)))
  /-- The operator's input ended the session before the failed read could be handled. -/
  | superseded {outcome : Outcome} {cause : Cause} {before handling : List Happening}
      {failure : Option Cause} (faultless : Faultless before) (handles : outcome.Handling handling)
      (last : w.doings = before ++ .exchanged (.readFailed cause) ::
        (handling ++ [.entered outcome.state, .exchanged (.shutDown failure)])) :
      Aftermath w (.ended outcome)
  /-- A send that fails ends the session at once. -/
  | cut {op : Operation} {rest : Bytes} {cause : Cause} {exchange : Exchange}
      {before : List Happening} {failure : Option Cause} (faultless : Faultless before)
      (breaks : exchange.Breaks op rest cause)
      (last : w.doings = before ++ .exchanged exchange ::
        [.entered .closedError, .exchanged (.shutDown failure)]) :
      Aftermath w (.ended (.fault (.of op cause)))

/-! ## The invariant -/

theorem World.doings_finish {w : World} (isOpen : w.session.transport.closed = false)
    (outcome : Outcome) :
    (w.finish outcome).doings = w.doings ++ [.entered outcome.state,
      .exchanged (.shutDown w.session.transport.stream.shutdownFailure)] :=
  doings_more (happenings_finish isOpen outcome)

namespace Aftermath

variable {s t : Stage} {w v : World} {new : List Happening}

/-- While nothing that failed is in hand, nothing has failed. -/
theorem faultless (aftermath : Aftermath w s) (running : s.isOver = false) (calm : s.fault? = none) :
    Faultless w.doings := by
  cases aftermath with
  | sound _ faultless => exact faultless
  | awaited _ inHand =>
    rw [Stage.fault?_of_running running, inHand] at calm
    cases calm
  | handled | superseded | cut => cases running

theorem idle (aftermath : Aftermath w s) (running : s.isOver = false) (calm : s.fault? = none)
    (still : t.fault? = none) (more : v.doings = w.doings ++ new) (sound : Faultless new) :
    Aftermath v t := by
  refine .sound still ?_
  rw [more]
  exact (aftermath.faultless running calm).append sound

/-- The read in hand waits while the operator's input is handled. -/
theorem goOn (aftermath : Aftermath w s) (running : s.isOver = false) (still : t.isOver = false)
    (read : t.read? = s.read?) (more : v.doings = w.doings ++ new) (sound : Faultless new)
    (attends : ∀ answer, s.Attending answer → t.Attending (answer ++ new)) : Aftermath v t := by
  cases aftermath with
  | sound calm faultless =>
    refine .sound ?_ (more ▸ faultless.append sound)
    rw [Stage.fault?_of_running still, read, ← Stage.fault?_of_running running, calm]
  | @awaited _ cause before answer faultless inHand attending last =>
    have longer : v.doings = before ++ .exchanged (.readFailed cause) :: (answer ++ new) := by
      rw [more, last, List.append_assoc]
      rfl
    exact .awaited faultless (read.trans inHand) (attends answer attending) longer
  | handled | superseded | cut => cases running

/-- A session in which nothing failed ends for another reason. -/
theorem finish (aftermath : Aftermath w s) (running : s.isOver = false) (calm : s.fault? = none)
    (more : v.doings = w.doings ++ new) (sound : Faultless new)
    (isOpen : v.session.transport.closed = false) {outcome : Outcome}
    (other : outcome.fault? = none) : Aftermath (v.finish outcome) (.ended outcome) := by
  refine .sound other ?_
  rw [doings_finish isOpen, more]
  refine ((aftermath.faultless running calm).append sound).append ?_
  simp [Faultless, Happening.fault?, Exchange.fault?]

/-- The failure of a read in hand is lost if the operator's input ends the session. -/
theorem supersede {cause : Cause} {before answer : List Happening} (faultless : Faultless before)
    (last : w.doings = before ++ .exchanged (.readFailed cause) :: answer)
    (more : v.doings = w.doings ++ new) (isOpen : v.session.transport.closed = false)
    {outcome : Outcome} (handles : outcome.Handling (answer ++ new)) :
    Aftermath (v.finish outcome) (.ended outcome) := by
  have longer : (v.finish outcome).doings = before ++ .exchanged (.readFailed cause) ::
      ((answer ++ new) ++ [.entered outcome.state,
        .exchanged (.shutDown v.session.transport.stream.shutdownFailure)]) := by
    rw [doings_finish isOpen, more, last]
    simp only [List.append_assoc, List.cons_append]
  exact .superseded faultless handles longer

theorem finishAsked (aftermath : Aftermath w s) (running : s.isOver = false)
    (more : v.doings = w.doings ++ new) (sound : Faultless new)
    (isOpen : v.session.transport.closed = false) {outcome : Outcome}
    (other : outcome.fault? = none)
    (handles : ∀ answer, s.Attending answer → outcome.Handling (answer ++ new)) :
    Aftermath (v.finish outcome) (.ended outcome) := by
  cases aftermath with
  | sound calm faultless =>
    exact (Aftermath.sound calm faultless).finish running calm more sound isOpen other
  | awaited faultless _ attending last =>
    exact supersede faultless last more isOpen (handles _ attending)
  | handled | superseded | cut => cases running

theorem finishSent (aftermath : Aftermath w s) (running : s.isOver = false)
    (isOpen : w.session.transport.closed = false) {op : Operation} {payload : Bytes} {fault : Fault}
    {exchanges : List Exchange} {failure : Option (Cause × Nat)}
    (sent : Sent op payload (.failed fault) exchanges)
    (handles : ∀ answer, s.Attending answer →
      (Outcome.fault fault).Handling (answer ++ exchanges.map .exchanged)) :
    Aftermath ((w.afterSend failure exchanges).finish (.fault fault)) (.ended (.fault fault)) := by
  have more := doings_exchanged (happenings_afterSend w failure exchanges)
  have stillOpen : (w.afterSend failure exchanges).session.transport.closed = false := isOpen
  cases aftermath with
  | sound calm faultless =>
    obtain ⟨rest, accepted, cause, reason, rfl, breaks, rfl⟩ := sent.failed_accepted
    have last := doings_finish stillOpen (.fault (.of op cause))
    rw [more, List.map_append, ← List.append_assoc, List.append_assoc] at last
    exact .cut (faultless.append (accepted.faultless_trace op)) breaks last
  | awaited faultless _ attending last =>
    exact supersede faultless last more stillOpen (handles _ attending)
  | handled | superseded | cut => cases running

theorem opened (stream : Stream) (options : Options) (filter : Filter) (now : Nat) :
    Aftermath (World.opened stream options filter now) .created :=
  .sound rfl nofun

/-- No turn begins a new cycle after a failure. -/
theorem turn (isOpen : w.session.transport.closed = false) (turn : Turn s w t v)
    (aftermath : Aftermath w s) : Aftermath v t := by
  have same : w.doings = w.doings ++ [] := (List.append_nil _).symm
  cases turn with
  | begin =>
    exact aftermath.idle rfl rfl rfl (doings_more (happenings_enter ..))
      (by simp [Faultless, Happening.fault?])
  | wait | takeLine | takeClose | takeNothing | noRead | hide | rest | sendProbe =>
    exact aftermath.idle rfl rfl rfl same .nil
  | display =>
    exact aftermath.idle rfl rfl rfl (doings_more (happenings_emit ..))
      (by simp [Faultless, Happening.fault?])
  | read receives =>
    cases receives with
    | nothing => exact aftermath.idle rfl rfl rfl same .nil
    | failed =>
      exact .awaited (aftermath.faultless rfl rfl) rfl .woken (doings_more (happenings_exchange ..))
    | bytes =>
      exact aftermath.idle rfl rfl rfl (doings_more (happenings_fill ..))
        (by simp [Faultless, Happening.fault?, Exchange.fault?])
  | stop | interrupt =>
    exact aftermath.finish rfl rfl same .nil isOpen rfl
  | inputOver =>
    exact aftermath.finish rfl rfl (doings_more (happenings_emit ..))
      (by simp [Faultless, Happening.fault?]) isOpen rfl
  | close =>
    refine aftermath.finishAsked rfl same .nil isOpen rfl fun _ attending => ?_
    cases attending
    exact .closed
  | quit =>
    refine aftermath.finishAsked rfl (doings_more (happenings_emit ..))
      (by simp [Faultless, Happening.fault?]) isOpen rfl fun _ attending => ?_
    cases attending
    exact .quit
  | skip =>
    refine aftermath.goOn rfl rfl rfl (doings_more (happenings_emit ..))
      (by simp [Faultless, Happening.fault?]) fun _ attending => ?_
    cases attending
    exact .answered .skipped
  | noLine =>
    refine aftermath.goOn rfl rfl rfl same .nil fun _ attending => ?_
    cases attending
    exact .answered .nothing
  | @sendLine _ text =>
    refine aftermath.goOn rfl rfl rfl same .nil fun _ attending => ?_
    cases attending
    exact .sendingLine (.nothing (Text.encode text))
  | @lineSent _ text rest read failure exchanges sent =>
    have more := doings_exchanged (happenings_afterSend w failure exchanges)
    have shown := doings_more
      (happenings_emit ((w.afterSend failure exchanges).recordSend w.now) (.sent text))
    -- the confirmation follows the exchanges that it confirms
    have confirmed : (((w.afterSend failure exchanges).recordSend w.now).emit (.sent text)).doings =
        w.doings ++ (exchanges.map .exchanged ++ [.shown (.sent text)]) := by
      rw [shown, ← List.append_assoc]
      exact congrArg (· ++ [.shown (.sent text)]) more
    refine aftermath.goOn rfl rfl rfl confirmed
      ((sent.faultless (by simp)).append (by simp [Faultless, Happening.fault?])) fun _ attending => ?_
    obtain ⟨later, rfl⟩ := sent.done_accepted
    cases attending with
    | sendingLine accepted =>
      have sent := Attended.sent (accepted.append later)
      rw [Accepted.trace_append] at sent
      simpa [Accepted.trace] using Stage.Attending.answered sent
  | @lineHeld _ text rest left read failure exchanges sent =>
    have more := doings_exchanged (happenings_afterSend w failure exchanges)
    refine aftermath.goOn rfl rfl rfl more (sent.faultless (by simp)) fun _ attending => ?_
    obtain ⟨later, rfl⟩ := sent.pending_accepted
    cases attending with
    | sendingLine accepted =>
      have longer : (Stage.sendingLine text left read).Attending
          ((accepted.append later).trace .send) := .sendingLine _
      rwa [Accepted.trace_append] at longer
  | lineFailed sent =>
    refine aftermath.finishSent rfl isOpen sent fun _ attending => ?_
    obtain ⟨left, later, cause, reason, rfl, breaks, rfl⟩ := sent.failed_accepted
    cases attending with
    | sendingLine accepted =>
      have failed := Outcome.Handling.failed (accepted.append later) breaks
      rw [Accepted.trace_append, List.append_assoc] at failed
      simpa [Accepted.trace] using failed
  | readFailed =>
    cases aftermath with
    | sound calm => cases calm
    | @awaited _ cause before answer faultless inHand attending last =>
      cases inHand
      cases attending with
      | answered attended =>
        have longer := doings_finish isOpen (.fault (.of .receive cause))
        rw [last, List.append_assoc] at longer
        exact .handled faultless attended longer
  | probeSent sent =>
    exact aftermath.idle rfl rfl rfl (doings_exchanged (happenings_afterSend ..))
      (sent.faultless (by simp))
  | probeHeld sent =>
    exact aftermath.idle rfl rfl rfl (doings_exchanged (happenings_afterSend ..))
      (sent.faultless (by simp))
  | probeFailed sent => exact aftermath.finishSent rfl isOpen sent fun _ attending => by cases attending

theorem frame (aftermath : Aftermath w s) (doings : v.doings = w.doings) : Aftermath v s := by
  cases aftermath with
  | sound calm faultless => exact .sound calm (doings ▸ faultless)
  | awaited faultless inHand attending last =>
    exact .awaited faultless inHand attending (doings.trans last)
  | handled faultless attended last => exact .handled faultless attended (doings.trans last)
  | superseded faultless handles last => exact .superseded faultless handles (doings.trans last)
  | cut faultless breaks last => exact .cut faultless breaks (doings.trans last)

theorem met {occurrence : Occurrence} (meets : w.Meets occurrence v)
    (aftermath : Aftermath w w.stage) : Aftermath v w.stage := by
  refine aftermath.frame ?_
  cases meets with
  | stream | refused | closeInput | pass | request => rfl
  | queued => exact (doings_more (happenings_enqueue ..)).trans (List.append_nil _)

end Aftermath

end Lifeline
