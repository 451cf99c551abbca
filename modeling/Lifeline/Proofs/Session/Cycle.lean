import Lifeline.Proofs.Session.History

/-! # The session loop, part by part

A move of the session can be a whole cycle.  `Turn` cuts the cycle into its parts: taking what the
operator has, the read, the answer to the operator, the answer to the read, the heartbeat.  Each
constructor says all that its part does and when it is done, and a `Stage` says where between two
parts the session stands.  `advance?_turns` shows that every move is a run of such turns, so a
property that each turn keeps is kept by every move.
-/

namespace Lifeline

/-- What a session is told once and for all: heartbeats and the quit command. -/
def Session.settings (session : Session) : Filter × String := (session.filter, session.quitKeyword)

/-! ## Stages -/

/-- A place between two parts of the loop. -/
inductive Stage where
  | created
  | atHead
  | waiting (deadline : Nat)
  /-- The operator's queue was asked, the stream not yet. -/
  | taken (deadline : Nat) (operator : Option Operator.Input)
  /-- All that became ready is known, and nothing is handled. -/
  | woken (operator : Option Operator.Input) (read : Option ReadOutcome)
  /-- The operator was answered, and the read is still to be handled. -/
  | answered (read : Option ReadOutcome)
  | sendingLine (text : String) (rest : Bytes) (read : Option ReadOutcome)
  /-- Only the heartbeat is left. -/
  | checking
  | sendingProbe (rest : Bytes) (due : Nat)
  | ended (outcome : Outcome)

def Phase.stage : Phase → Stage
  | .created => .created
  | .atHead => .atHead
  | .waiting deadline => .waiting deadline
  | .sendingLine text rest read => .sendingLine text rest read
  | .sendingProbe rest due => .sendingProbe rest due
  | .ended outcome => .ended outcome

def World.stage (w : World) : Stage := w.phase.stage

namespace Stage

def isOver : Stage → Bool
  | .ended _ => true
  | _ => false

/-- The read that is still to be handled. -/
def read? : Stage → Option ReadOutcome
  | .woken _ read | .answered read | .sendingLine _ _ read => read
  | _ => none

/-! ## Turns -/

open World (Receives)
open Transport (Sent)

inductive Turn : Stage → World → Stage → World → Prop where
  | begin {w : World} : Turn .created w .atHead { w.enter .active with phase := .atHead }
  | stop {w : World} (requested : w.stop.requested = true) :
      Turn .atHead w (.ended .interrupted) (w.finish .interrupted)
  | wait {w : World} (quiet : w.stop.requested = false) :
      Turn .atHead w (.waiting w.deadline) { w with phase := .waiting w.deadline }
  | interrupt {w : World} {deadline : Nat} (pressed : w.stop.interrupted = true) :
      Turn (.waiting deadline) w (.ended .interrupted) (w.finish .interrupted)
  | takeLine {w : World} {deadline : Nat} {text : String} {lines : List String}
      (calm : w.stop.interrupted = false) (queued : w.operator.lines = text :: lines) :
      Turn (.waiting deadline) w (.taken deadline (some (.line text)))
        { w with operator := { w.operator with lines } }
  | takeClose {w : World} {deadline : Nat} (calm : w.stop.interrupted = false)
      (empty : w.operator.lines = []) (closed : w.operator.ended = true) :
      Turn (.waiting deadline) w (.taken deadline (some .closed)) w
  | takeNothing {w : World} {deadline : Nat} (calm : w.stop.interrupted = false)
      (empty : w.operator.lines = []) (awaited : w.operator.ended = false) :
      Turn (.waiting deadline) w (.taken deadline none) w
  | read {w v : World} {deadline : Nat} {operator : Option Operator.Input}
      {outcome : Option ReadOutcome} (receives : Receives w outcome v)
      (ready : operator.isSome ∨ outcome.isSome ∨ deadline ≤ w.now) :
      Turn (.taken deadline operator) w (.woken operator outcome) v
  | close {w : World} {read : Option ReadOutcome} :
      Turn (.woken (some .closed) read) w (.ended .inputClosed) (w.finish .inputClosed)
  | quit {w : World} {text : String} {read : Option ReadOutcome}
      (asked : Operator.isQuit text w.session.quitKeyword = true) :
      Turn (.woken (some (.line text)) read) w (.ended .operatorQuit)
        ((w.emit .farewell).finish .operatorQuit)
  | skip {w : World} {text : String} {read : Option ReadOutcome}
      (goesOn : Operator.isQuit text w.session.quitKeyword = false) (blank : text.isEmpty = true) :
      Turn (.woken (some (.line text)) read) w (.answered read) (w.emit .skipped)
  | sendLine {w : World} {text : String} {read : Option ReadOutcome}
      (goesOn : Operator.isQuit text w.session.quitKeyword = false)
      (filled : text.isEmpty = false) :
      Turn (.woken (some (.line text)) read) w (.sendingLine text (Text.encode text) read) w
  | noLine {w : World} {read : Option ReadOutcome} : Turn (.woken none read) w (.answered read) w
  | lineSent {w : World} {text : String} {rest : Bytes} {read : Option ReadOutcome}
      {failure : Option (Cause × Nat)} {exchanges : List Exchange}
      (sent : Sent .send rest .done exchanges) :
      Turn (.sendingLine text rest read) w (.answered read)
        (((w.afterSend failure exchanges).recordSend w.now).emit (.sent text))
  | lineHeld {w : World} {text : String} {rest left : Bytes} {read : Option ReadOutcome}
      {failure : Option (Cause × Nat)} {exchanges : List Exchange}
      (sent : Sent .send rest (.pending left) exchanges) :
      Turn (.sendingLine text rest read) w (.sendingLine text left read)
        { w.afterSend failure exchanges with phase := .sendingLine text left read }
  | lineFailed {w : World} {text : String} {rest : Bytes} {read : Option ReadOutcome}
      {failure : Option (Cause × Nat)} {exchanges : List Exchange} {fault : Fault}
      (sent : Sent .send rest (.failed fault) exchanges) :
      Turn (.sendingLine text rest read) w (.ended (.fault fault))
        ((w.afterSend failure exchanges).finish (.fault fault))
  | noRead {w : World} : Turn (.answered none) w .checking w
  | readFailed {w : World} {fault : Fault} :
      Turn (.answered (some (.error fault))) w (.ended (.fault fault)) (w.finish (.fault fault))
  | inputOver {w : World} :
      Turn (.answered (some (.ok 0))) w (.ended .peerClosed)
        ((w.emit .peerClosed).finish .peerClosed)
  | hide {w : World} {n : Nat}
      (hidden : w.session.filter.hides (w.session.buffer.take (n + 1)) = true) :
      Turn (.answered (some (.ok (n + 1)))) w .checking w
  | display {w : World} {n : Nat}
      (plain : w.session.filter.hides (w.session.buffer.take (n + 1)) = false) :
      Turn (.answered (some (.ok (n + 1)))) w .checking
        (w.emit (.received (Text.decodeLossy (w.session.buffer.take (n + 1)))))
  | rest {w : World} (early : w.session.clock.isDue w.now = false) :
      Turn .checking w .atHead { w with phase := .atHead }
  | sendProbe {w : World} (due : w.session.clock.isDue w.now = true) :
      Turn .checking w (.sendingProbe w.session.filter.probe w.now) w
  | probeSent {w : World} {rest : Bytes} {due : Nat} {failure : Option (Cause × Nat)}
      {exchanges : List Exchange} (sent : Sent .heartbeat rest .done exchanges) :
      Turn (.sendingProbe rest due) w .atHead
        { (w.afterSend failure exchanges).recordSend due with phase := .atHead }
  | probeHeld {w : World} {rest left : Bytes} {due : Nat} {failure : Option (Cause × Nat)}
      {exchanges : List Exchange} (sent : Sent .heartbeat rest (.pending left) exchanges) :
      Turn (.sendingProbe rest due) w (.sendingProbe left due)
        { w.afterSend failure exchanges with phase := .sendingProbe left due }
  | probeFailed {w : World} {rest : Bytes} {due : Nat} {failure : Option (Cause × Nat)}
      {exchanges : List Exchange} {fault : Fault}
      (sent : Sent .heartbeat rest (.failed fault) exchanges) :
      Turn (.sendingProbe rest due) w (.ended (.fault fault))
        ((w.afterSend failure exchanges).finish (.fault fault))

theorem Turn.settings {s t : Stage} {w v : World} (turn : Turn s w t v) :
    v.session.settings = w.session.settings := by
  cases turn with
  | read receives => cases receives <;> rfl
  | _ => rfl

/-- Some turns in a row, each of them over an open connection. -/
inductive Turns : Stage → World → Stage → World → Prop where
  | refl {s : Stage} {w : World} : Turns s w s w
  | cons {s t u : Stage} {w v x : World} (isOpen : w.session.transport.closed = false)
      (first : Turn s w t v) (later : Turns t v u x) : Turns s w u x

theorem Turns.single {s t : Stage} {w v : World} (isOpen : w.session.transport.closed = false)
    (turn : Turn s w t v) : Turns s w t v := .cons isOpen turn .refl

theorem Turns.keeps {I : Stage → World → Prop}
    (kept : ∀ {s t w v}, w.session.transport.closed = false → Turn s w t v → I s w → I t v)
    {s t : Stage} {w v : World} (turns : Turns s w t v) (holds : I s w) : I t v := by
  induction turns with
  | refl => exact holds
  | cons isOpen first _ inductionHypothesis =>
    exact inductionHypothesis (kept isOpen first holds)

end Stage

/-! ## Moves as turns -/

namespace World

open Stage (Turn Turns)

variable {w : World}

theorem afterProbe_turns (isOpen : w.session.transport.closed = false) (rest : Bytes) (due : Nat) :
    Turns (.sendingProbe rest due) w (afterProbe due (w.sendProbe rest due)).stage
      (afterProbe due (w.sendProbe rest due)) := by
  obtain ⟨progress, failure, exchanges, sent, answer⟩ := send_afterSend isOpen .heartbeat rest
  rw [sendProbe, answer]
  cases progress with
  | done => exact .single isOpen (.probeSent sent)
  | pending left => exact .single isOpen (.probeHeld sent)
  | failed fault => exact .single isOpen (.probeFailed sent)

theorem afterStream_turns (isOpen : w.session.transport.closed = false) :
    Turns .checking w w.afterStream.stage w.afterStream := by
  unfold afterStream checkHeartbeat
  split
  · rename_i due
    exact .cons isOpen (.sendProbe due) (afterProbe_turns isOpen _ _)
  · rename_i early
    exact .single isOpen (.rest (by simpa using early))

theorem afterOperator_turns (isOpen : w.session.transport.closed = false)
    (read : Option ReadOutcome) :
    Turns (.answered read) w (w.afterOperator read).stage (w.afterOperator read) := by
  match read with
  | none => exact .cons isOpen .noRead (afterStream_turns isOpen)
  | some (.error fault) => exact .single isOpen .readFailed
  | some (.ok 0) => exact .single isOpen .inputOver
  | some (.ok (n + 1)) =>
    cases shown : w.session.filter.hides (w.session.buffer.take (n + 1)) with
    | true =>
      simp only [afterOperator, handleStream, shown, if_true]
      exact .cons isOpen (.hide shown) (afterStream_turns isOpen)
    | false =>
      simp only [afterOperator, handleStream, shown, Bool.false_eq_true, if_false]
      refine .cons isOpen (.display shown) (afterStream_turns ?_)
      exact isOpen

theorem afterLine_turns (isOpen : w.session.transport.closed = false) (text : String)
    (rest : Bytes) (read : Option ReadOutcome) :
    Turns (.sendingLine text rest read) w (afterLine text read (w.sendLine text rest)).stage
      (afterLine text read (w.sendLine text rest)) := by
  obtain ⟨progress, failure, exchanges, sent, answer⟩ := send_afterSend isOpen .send rest
  rw [World.sendLine, answer]
  cases progress with
  | done =>
    refine .cons isOpen (.lineSent sent) (afterOperator_turns ?_ read)
    exact isOpen
  | pending left => exact .single isOpen (.lineHeld sent)
  | failed fault => exact .single isOpen (.lineFailed sent)

theorem dispatch_turns (isOpen : w.session.transport.closed = false)
    (operator : Option Operator.Input) (read : Option ReadOutcome) :
    Turns (.woken operator read) w (w.dispatch ⟨operator, read, false⟩).stage
      (w.dispatch ⟨operator, read, false⟩) := by
  match operator with
  | none => exact .cons isOpen .noLine (afterOperator_turns isOpen read)
  | some .closed => exact .single isOpen .close
  | some (.line text) =>
    cases asked : Operator.isQuit text w.session.quitKeyword with
    | true =>
      simp only [dispatch, handleOperator, asked, Bool.false_eq_true, if_true, if_false]
      exact .single isOpen (.quit asked)
    | false =>
      cases blank : text.isEmpty with
      | true =>
        simp only [dispatch, handleOperator, asked, blank, Bool.false_eq_true, if_true, if_false]
        refine .cons isOpen (.skip asked blank) (afterOperator_turns ?_ read)
        exact isOpen
      | false =>
        simp only [dispatch, handleOperator, asked, blank, Bool.false_eq_true, if_false]
        exact .cons isOpen (.sendLine asked blank) (afterLine_turns isOpen text _ read)

theorem tryTake_turn (calm : w.stop.interrupted = false) (deadline : Nat) :
    Turn (.waiting deadline) w (.taken deadline w.operator.tryTake.1)
      { w with operator := w.operator.tryTake.2 } := by
  unfold Operator.Queue.tryTake
  cases queued : w.operator.lines with
  | cons text lines => exact .takeLine calm queued
  | nil =>
    cases gone : w.operator.ended with
    | true => exact .takeClose calm queued gone
    | false => exact .takeNothing calm queued gone

/-- The operator's queue is asked first, then the stream, and then all is handled. -/
theorem wake?_turns (isOpen : w.session.transport.closed = false) {deadline : Nat}
    {ready : Readiness} {v : World} (woke : w.wake? deadline = some (ready, v)) :
    Turns (.waiting deadline) w (v.dispatch ready).stage (v.dispatch ready) := by
  unfold wake? at woke
  split at woke
  · rename_i pressed
    cases woke
    exact .single isOpen (.interrupt pressed)
  · rename_i calm
    have stillOpen : { w with operator := w.operator.tryTake.2 }.session.transport.closed = false :=
      isOpen
    have receives := receive_receives stillOpen
    have taken := tryTake_turn (by simpa using calm) deadline
    dsimp only at woke
    split at woke
    · cases woke
    -- the guard of the model says that nothing is ready; a turn wants that something is
    · rename_i ready
      cases woke
      refine .cons isOpen taken (.cons stillOpen (.read receives ?_) (dispatch_turns ?_ _ _))
      · simp only [Bool.and_eq_true, Option.isNone_iff_eq_none, decide_eq_true_eq] at ready
        simp only [Option.isSome_iff_ne_none]
        grind
      · rw [receives.closed]
        exact stillOpen

theorem advance?_turns (isOpen : w.session.transport.closed = false) {v : World}
    (advanced : w.advance? = some v) : Turns w.stage w v.stage v := by
  -- one case for each phase: a session that is created or has ended makes no move
  unfold advance? at advanced
  unfold stage
  split at advanced <;> rename_i standing <;> rw [standing]
  · cases advanced
  · cases advanced
  · split at advanced <;> rename_i requested <;> cases advanced
    · exact .single isOpen (.stop requested)
    · exact .single isOpen (.wait (by simpa using requested))
  · obtain ⟨⟨ready, later⟩, woke, rfl⟩ := Option.map_eq_some_iff.mp advanced
    exact wake?_turns isOpen woke
  · split at advanced <;> cases advanced
    exact afterLine_turns isOpen _ _ _
  · split at advanced <;> cases advanced
    exact afterProbe_turns isOpen _ _

end World

end Lifeline
