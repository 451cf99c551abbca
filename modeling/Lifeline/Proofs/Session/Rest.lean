import Lifeline.Proofs.Session.Timekeeping

/-! # How a session comes to rest

A session rests when it has no move to make: it is suspended in its wait or in a write, has ended or
was not begun.  `settle` lets a session move, but only so often; `settle_rests` shows that this is
enough, unless probes are to be sent without any interval between them.

What goes down with each move is `effort`.  A cycle takes a line, reads some bytes or ends the
session, or its deadline has passed; and after a cycle no probe is due, so the next deadline is still
to come.
-/

namespace Lifeline

/-! ## Pending writes -/

/-- A write is left pending by a blocked stream alone. -/
theorem Transport.writePieces_blocked (op : Operation) (pieces : Nat) (s : Stream) (payload : Bytes)
    (enough : payload.length ≤ pieces) {rest : Bytes}
    (pending : (writePieces op pieces s payload).progress = .pending rest) : s.blocked = true := by
  induction pieces generalizing s payload with
  | zero =>
    obtain rfl : payload = [] := List.eq_nil_of_length_eq_zero (by omega)
    cases pending
  | succ pieces inductionHypothesis =>
    cases payload with
    | nil => cases pending
    | cons b payload =>
      obtain ⟨failure, frame⟩ := s.write_frame (b :: payload)
      unfold writePieces at pending
      cases blocked : s.blocked with
      | true => rfl
      | false =>
        split at pending <;> rename_i answered
        · unfold Stream.write at answered
          split at answered <;> simp_all
        · cases pending
        · cases pending
        · rw [answered] at frame
          simp only at frame
          subst frame
          have smaller : ((b :: payload).drop (‹Nat› + 1)).length ≤ pieces := by
            simp only [List.length_drop, List.length_cons] at enough ⊢
            omega
          have still := inductionHypothesis _ _ smaller pending
          simp [blocked] at still

namespace World

variable {w v : World}

theorem blocked_of_send_pending (isOpen : w.session.transport.closed = false) {op : Operation}
    {payload rest : Bytes} (pending : (w.send op payload).1 = .pending rest) :
    w.session.transport.stream.blocked = true := by
  have progress : (w.session.transport.send op payload).1 = .pending rest := pending
  simp only [Transport.send, isOpen, Bool.false_eq_true, if_false] at progress
  refine Transport.writePieces_blocked op _ _ payload (Nat.le_refl _)
    (?_ : _ = Transport.Progress.pending rest)
  -- a flush is never pending, so the writes before it are
  unfold Transport.flushAfter at progress
  split at progress
  · rename_i finished
    split at progress <;> simp [finished] at progress
  · exact progress

/-! ## Rest -/

/-- A session that has no move to make. -/
def Rests (w : World) : Prop := w.advance? = none

theorem moves_of_rests (rests : w.Rests) (n : Nat) : moves n w = w := by
  cases n with
  | zero => rfl
  | succ n => simp only [moves, show w.advance? = none from rests]

theorem moves_succ (advanced : w.advance? = some v) (n : Nat) : moves (n + 1) w = moves n v := by
  simp only [moves, advanced]

theorem moves_one (advanced : w.advance? = some v) : moves 1 w = v := by
  simp only [moves, advanced]

theorem advance_head (head : w.phase = .atHead) :
    w.advance? = some (if w.stop.requested then w.finish .interrupted
      else { w with phase := .waiting w.deadline }) := by
  simp only [advance?, head]
  split <;> rfl

theorem advance_waiting {deadline : Nat} (waiting : w.phase = .waiting deadline) :
    w.advance? = (w.wake? deadline).map fun (ready, w) => w.dispatch ready := by
  simp only [advance?, waiting]

theorem advance_line {text : String} {rest : Bytes} {read : Option ReadOutcome}
    (standing : w.phase = .sendingLine text rest read) :
    w.advance? = if w.session.transport.stream.blocked then none
      else some (afterLine text read (w.sendLine text rest)) := by
  simp only [advance?, standing]

theorem advance_probe {rest : Bytes} {due : Nat} (standing : w.phase = .sendingProbe rest due) :
    w.advance? = if w.session.transport.stream.blocked then none
      else some (afterProbe due (w.sendProbe rest due)) := by
  simp only [advance?, standing]

/-! ## Waking -/

/-- The world after the operator's queue was asked. -/
def asked (w : World) : World := { w with operator := w.operator.tryTake.2 }

/-- The end of a wait in which no stop was asked for: what is ready, and the world behind it. -/
def woken (w : World) : Readiness × World :=
  ({ operator := w.operator.tryTake.1, stream := w.asked.receive.1 }, w.asked.receive.2)

/-- Whether something is ready, or the deadline has passed. -/
def IsRoused (w : World) (deadline : Nat) : Prop :=
  w.operator.tryTake.1.isSome = true ∨ w.asked.receive.1.isSome = true ∨ deadline ≤ w.now

theorem wake?_of_interrupted (pressed : w.stop.interrupted = true) (deadline : Nat) :
    w.wake? deadline = some ({ interrupted := true }, w) := by
  simp only [wake?, pressed, if_true]

theorem wake?_of_calm (calm : w.stop.interrupted = false) (deadline : Nat) :
    w.wake? deadline =
      if w.operator.tryTake.1.isNone && w.asked.receive.1.isNone && w.now < deadline then none
      else some w.woken := by
  simp only [wake?, calm, Bool.false_eq_true, if_false]
  rfl

theorem wake?_of_roused (calm : w.stop.interrupted = false) {deadline : Nat}
    (roused : w.IsRoused deadline) : w.wake? deadline = some w.woken := by
  rw [wake?_of_calm calm, if_neg]
  simp only [Bool.and_eq_true, Option.isNone_iff_eq_none, decide_eq_true_eq, not_and, Nat.not_lt]
  rintro ⟨noLine, noRead⟩
  simpa [IsRoused, noLine, noRead] using roused

/-- A session that waits goes on waiting as long as nothing is ready. -/
theorem wake?_eq_none_iff {deadline : Nat} :
    w.wake? deadline = none ↔ w.stop.interrupted = false ∧ ¬w.IsRoused deadline := by
  constructor
  · intro asleep
    cases pressed : w.stop.interrupted with
    | true =>
      rw [wake?_of_interrupted pressed] at asleep
      cases asleep
    | false =>
      refine ⟨rfl, fun roused => ?_⟩
      rw [wake?_of_roused pressed roused] at asleep
      cases asleep
  · rintro ⟨calm, idle⟩
    simp only [IsRoused, not_or, Bool.not_eq_true, Option.isSome_eq_false_iff, Nat.not_le] at idle
    rw [wake?_of_calm calm, if_pos (by simpa [and_assoc] using idle)]

theorem wake?_cases {deadline : Nat} {ready : Readiness}
    (woke : w.wake? deadline = some (ready, v)) :
    (w.stop.interrupted = true ∧ ready = { interrupted := true } ∧ v = w) ∨
      (w.stop.interrupted = false ∧ w.IsRoused deadline ∧ (ready, v) = w.woken) := by
  cases pressed : w.stop.interrupted with
  | true =>
    rw [wake?_of_interrupted pressed] at woke
    cases woke
    exact .inl ⟨rfl, rfl, rfl⟩
  | false =>
    by_cases roused : w.IsRoused deadline
    · rw [wake?_of_roused pressed roused] at woke
      exact .inr ⟨rfl, roused, (Option.some.inj woke).symm⟩
    · rw [wake?_eq_none_iff.mpr ⟨pressed, roused⟩] at woke
      cases woke

theorem rests_waiting_iff {deadline : Nat} (waiting : w.phase = .waiting deadline) :
    w.Rests ↔ w.wake? deadline = none := by
  simp [Rests, advance?, waiting]

/-! ## Suspension -/

/-- The session is suspended in its wait. -/
def IsSuspended (w : World) : Prop := w.Rests ∧ ∃ deadline, w.phase = .waiting deadline

theorem isSuspended_iff :
    w.IsSuspended ↔ w.advance? = none ∧ w.stage.deadline?.isSome = true := by
  simp only [IsSuspended, Rests, Option.isSome_iff_exists, deadline?_stage]

instance (w : World) : Decidable w.IsSuspended := decidable_of_iff' _ isSuspended_iff

theorem IsSuspended.lt_deadline (suspended : w.IsSuspended) {deadline : Nat}
    (waiting : w.phase = .waiting deadline) : w.now < deadline := by
  obtain ⟨-, idle⟩ := wake?_eq_none_iff.mp ((rests_waiting_iff waiting).mp suspended.1)
  simp only [IsRoused, not_or, Nat.not_le] at idle
  exact idle.2.2

theorem receive_outcome (same : v.session = w.session) : v.receive.1 = w.receive.1 := by
  unfold receive
  rw [same]
  dsimp only
  split <;> rfl

/-- A session that is suspended stays so until its deadline, if nothing happens. -/
theorem IsSuspended.later (suspended : w.IsSuspended) {deadline time : Nat}
    (waiting : w.phase = .waiting deadline) (early : time < deadline) :
    ({ w with now := time } : World).IsSuspended := by
  obtain ⟨calm, idle⟩ := wake?_eq_none_iff.mp ((rests_waiting_iff waiting).mp suspended.1)
  simp only [IsRoused, not_or, Nat.not_le] at idle
  obtain ⟨noLine, noRead, -⟩ := idle
  have same : ({ w with now := time } : World).asked.session = w.asked.session := rfl
  rw [← receive_outcome same] at noRead
  have still : ¬({ w with now := time } : World).IsRoused deadline := by
    simp only [IsRoused, not_or, Nat.not_le]
    exact ⟨noLine, noRead, early⟩
  have waits : ({ w with now := time } : World).phase = .waiting deadline := waiting
  exact ⟨(rests_waiting_iff waits).mpr (wake?_eq_none_iff.mpr ⟨calm, still⟩), deadline, waits⟩

/-! ## The effort -/

def load (w : World) : Nat := w.operator.lines.length + w.session.transport.stream.inbound.length

/-- How many moves a session has before it besides those that its load calls for. -/
def strain (w : World) : Nat :=
  match w.phase with
  | .created | .ended _ => 0
  | .waiting deadline => if w.now < deadline then 1 else 3
  | .atHead => if w.now < w.deadline then 2 else 4
  | .sendingLine _ _ _ => if w.session.transport.stream.blocked then 0 else 3
  | .sendingProbe _ _ => if w.session.transport.stream.blocked then 0 else 5

/-- A bound on the moves that a session makes before it rests. -/
def effort (w : World) : Nat := 2 * w.load + w.strain

theorem strain_le (w : World) : w.strain ≤ 5 := by
  unfold strain
  split <;> first | omega | (split <;> omega)

theorem effort_le_work (w : World) : w.effort ≤ w.work := by
  have bounded := w.strain_le
  simp only [effort, work, load]
  omega

theorem load_finish (w : World) (outcome : Outcome) : (w.finish outcome).load = w.load := by
  unfold load finish closeTransport Transport.close
  dsimp only
  split <;> rfl

/-- What a cycle leaves behind: a load, and no deadline that has passed. -/
structure Eases (load : Nat) (v : World) : Prop where
  load : v.load = load
  strain : v.strain ≤ 2

namespace Eases

theorem finish (w : World) (outcome : Outcome) : Eases w.load (w.finish outcome) :=
  ⟨load_finish w outcome, Nat.zero_le _⟩

/-- Nothing is due when a new cycle begins. -/
theorem atHead (early : w.session.clock.isDue w.now = false) :
    Eases w.load { w with phase := .atHead } := by
  refine ⟨rfl, ?_⟩
  have later : w.now < ({ w with phase := .atHead } : World).deadline := Clock.lt_deadline early
  simp only [World.strain, if_pos later, Nat.le_refl]

variable (isOpen : w.session.transport.closed = false)
  (lively : w.session.clock.interval ≠ some 0)

include isOpen lively

theorem afterStream : Eases w.load w.afterStream := by
  unfold World.afterStream checkHeartbeat
  split
  · obtain ⟨progress, failure, exchanges, sent, answer⟩ :=
      send_afterSend isOpen .heartbeat w.session.filter.probe
    rw [sendProbe, answer]
    cases progress with
    | done =>
      -- the interval has just restarted
      exact Eases.atHead (w := (w.afterSend failure exchanges).recordSend w.now)
        (Clock.isDue_recordSend lively w.now)
    | pending rest =>
      have blocked := blocked_of_send_pending isOpen (congrArg Prod.fst answer)
      exact ⟨rfl, by simp [World.strain, afterProbe, afterSend, exchange, note, blocked]⟩
    | failed fault => exact Eases.finish (w.afterSend failure exchanges) _
  · rename_i early
    exact Eases.atHead (by simpa using early)

theorem afterOperator (read : Option ReadOutcome) : Eases w.load (w.afterOperator read) := by
  match read with
  | none => exact afterStream isOpen lively
  | some (.error fault) => exact finish w _
  | some (.ok 0) => exact finish (w.emit .peerClosed) _
  | some (.ok (n + 1)) =>
    cases hidden : w.session.filter.hides (w.session.buffer.take (n + 1)) with
    | true =>
      simp only [World.afterOperator, handleStream, hidden, if_true]
      exact afterStream isOpen lively
    | false =>
      simp only [World.afterOperator, handleStream, hidden, Bool.false_eq_true, if_false]
      exact afterStream (w := w.emit _) isOpen lively

theorem afterLine (text : String) (rest : Bytes) (read : Option ReadOutcome) :
    Eases w.load (World.afterLine text read (w.sendLine text rest)) := by
  obtain ⟨progress, failure, exchanges, sent, answer⟩ := send_afterSend isOpen .send rest
  rw [World.sendLine, answer]
  cases progress with
  | done =>
    exact afterOperator (w := ((w.afterSend failure exchanges).recordSend w.now).emit (.sent text))
      isOpen lively read
  | pending left =>
    have blocked := blocked_of_send_pending isOpen (congrArg Prod.fst answer)
    exact ⟨rfl, by simp [World.strain, World.afterLine, afterSend, exchange, note, blocked]⟩
  | failed fault => exact finish (w.afterSend failure exchanges) _

theorem dispatch (ready : Readiness) : Eases w.load (w.dispatch ready) := by
  obtain ⟨operator, read, _ | _⟩ := ready
  · match operator with
    | none => exact afterOperator isOpen lively read
    | some .closed => exact finish w _
    | some (.line text) =>
      cases asked : Operator.isQuit text w.session.quitKeyword with
      | true =>
        simp only [World.dispatch, handleOperator, asked, Bool.false_eq_true, if_true, if_false]
        exact finish (w.emit .farewell) _
      | false =>
        cases blank : text.isEmpty with
        | true =>
          simp only [World.dispatch, handleOperator, asked, blank, Bool.false_eq_true, if_true, if_false]
          exact afterOperator (w := w.emit .skipped) isOpen lively read
        | false =>
          simp only [World.dispatch, handleOperator, asked, blank, Bool.false_eq_true, if_false]
          exact afterLine isOpen lively text _ read
  · exact finish w _

end Eases

theorem Eases.effort_lt {load : Nat} (eases : Eases load v)
    (fewer : 2 * load + 2 < w.effort) : v.effort < w.effort := by
  have bounded := eases.strain
  have same := eases.load
  simp only [effort] at fewer ⊢
  omega

theorem effort_finish (w : World) (outcome : Outcome) : (w.finish outcome).effort = 2 * w.load :=
  congrArg (2 * ·) (load_finish w outcome)

theorem strain_waiting {deadline : Nat} (waiting : w.phase = .waiting deadline) :
    w.strain = if w.now < deadline then 1 else 3 := by
  simp only [strain, waiting]

theorem strain_atHead (standing : w.phase = .atHead) :
    w.strain = if w.now < w.deadline then 2 else 4 := by
  simp only [strain, standing]

theorem strain_atHead_le (standing : w.phase = .atHead) : w.strain ≤ 4 := by
  rw [strain_atHead standing]
  split <;> omega

theorem Receives.clock {read : Option ReadOutcome} (receives : Receives w read v) :
    v.session.clock = w.session.clock := by
  cases receives <;> rfl

theorem load_receive {read : Option ReadOutcome} (receives : Receives w read v) :
    v.load + (match read with | some (.ok n) => n | _ => 0) = w.load := by
  cases receives with
  | nothing | failed => rfl
  | bytes received =>
    have split := congrArg List.length received.split
    simp only [List.length_append] at split
    simp only [load, session_fill, ← split]
    have queue : ∀ stream chunk, (w.fill stream chunk).operator = w.operator := fun _ _ => rfl
    rw [queue]
    omega

theorem load_asked (w : World) :
    w.asked.load + (match w.operator.tryTake.1 with | some (.line _) => 1 | _ => 0) = w.load := by
  unfold asked load
  dsimp only
  obtain ⟨lines, ended⟩ := w.operator
  cases lines with
  | cons line lines =>
    simp only [Operator.Queue.tryTake, List.length_cons]
    omega
  | nil => cases ended <;> rfl

/-- A probe leaves the load as it is. -/
theorem effort_afterProbe (isOpen : w.session.transport.closed = false) (rest : Bytes) (due : Nat) :
    (afterProbe due (w.sendProbe rest due)).effort ≤ 2 * w.load + 4 := by
  obtain ⟨progress, failure, exchanges, sent, answer⟩ := send_afterSend isOpen .heartbeat rest
  rw [sendProbe, answer]
  cases progress with
  | done =>
    have load : (afterProbe due (.goOn, (w.afterSend failure exchanges).recordSend due)).load =
        w.load := rfl
    have bounded := strain_atHead_le
      (w := afterProbe due (.goOn, (w.afterSend failure exchanges).recordSend due)) rfl
    exact Nat.add_le_add (Nat.le_of_eq (congrArg (2 * ·) load)) bounded
  | pending left =>
    have blocked := blocked_of_send_pending isOpen (congrArg Prod.fst answer)
    have strain : (afterProbe due (.suspend left, w.afterSend failure exchanges)).strain = 0 := by
      simp [World.strain, afterProbe, afterSend, exchange, note, blocked]
    rw [effort, strain]
    exact Nat.le_add_right ..
  | failed fault =>
    have ended := effort_finish (w.afterSend failure exchanges) (.fault fault)
    exact Nat.le_trans (Nat.le_of_eq ended) (Nat.le_add_right ..)

/-- Only a session that has not ended has a next move. -/
theorem Sane.running (sane : Sane w.stage w) (advanced : w.advance? = some v) :
    w.session.transport.closed = false := by
  refine sane.trans ?_
  unfold advance? at advanced
  unfold stage
  split at advanced <;> rename_i standing <;> rw [standing] <;> first | rfl | cases advanced

/-- A wait that ends takes a line, reads some bytes or ends the session, or its deadline has
    passed. -/
theorem effort_dispatch (isOpen : w.session.transport.closed = false)
    (lively : w.session.clock.interval ≠ some 0) {deadline : Nat} {ready : Readiness}
    (waiting : w.phase = .waiting deadline) (woke : w.wake? deadline = some (ready, v)) :
    (v.dispatch ready).effort < w.effort := by
  have strain := strain_waiting waiting
  have positive : 0 < w.strain := by
    rw [strain]
    split <;> omega
  obtain ⟨-, rfl, rfl⟩ | ⟨-, roused, same⟩ := wake?_cases woke
  · have ended : (v.dispatch { interrupted := true }).effort = 2 * v.load := effort_finish v _
    rw [ended, effort]
    omega
  have receives : Receives w.asked w.asked.receive.1 w.asked.receive.2 := receive_receives isOpen
  have asked := w.load_asked
  cases same
  unfold IsRoused at roused
  generalize w.asked.receive.1 = read at roused receives ⊢
  generalize w.asked.receive.2 = x at receives ⊢
  have fed := load_receive receives
  have eases := Eases.dispatch (receives.closed.trans isOpen) (receives.clock ▸ lively)
    ⟨w.operator.tryTake.1, read, false⟩
  cases taken : w.operator.tryTake.1 with
  | some input =>
    rw [taken] at asked eases
    cases input with
    | line text =>
      refine eases.effort_lt ?_
      simp only [effort] at asked fed ⊢
      omega
    | closed =>
      have ended : (x.dispatch ⟨some .closed, read, false⟩).effort = 2 * x.load :=
        effort_finish x _
      rw [ended, effort]
      dsimp only at asked
      omega
  | none =>
    rw [taken] at asked eases roused
    match read with
    | none =>
      -- the deadline has passed
      have passed : deadline ≤ w.now := by simpa using roused
      refine eases.effort_lt ?_
      rw [if_neg (by omega)] at strain
      simp only [effort, strain] at asked fed ⊢
      omega
    | some (.error fault) =>
      have ended : (x.dispatch ⟨none, some (.error fault), false⟩).effort = 2 * x.load :=
        effort_finish x _
      rw [ended, effort]
      dsimp only at asked fed
      omega
    | some (.ok 0) =>
      have ended : (x.dispatch ⟨none, some (.ok 0), false⟩).effort = 2 * x.load :=
        effort_finish (x.emit .peerClosed) _
      rw [ended, effort]
      dsimp only at asked fed
      omega
    | some (.ok (n + 1)) =>
      refine eases.effort_lt ?_
      simp only [effort] at asked fed ⊢
      omega

theorem effort_advance (isOpen : w.session.transport.closed = false)
    (lively : w.session.clock.interval ≠ some 0) (advanced : w.advance? = some v) :
    v.effort < w.effort := by
  unfold advance? at advanced
  split at advanced <;> rename_i standing
  · cases advanced
  · cases advanced
  · have strain := strain_atHead standing
    split at advanced <;> cases advanced
    · rw [effort_finish, effort, strain]
      split <;> omega
    · -- the deadline that is set is the one that the strain was counted with
      have waiting := strain_waiting (w := { w with phase := .waiting w.deadline }) rfl
      have same : ({ w with phase := .waiting w.deadline } : World).load = w.load := rfl
      rw [effort, effort, same, strain, waiting]
      dsimp only
      split <;> omega
  · obtain ⟨⟨ready, later⟩, woke, rfl⟩ := Option.map_eq_some_iff.mp advanced
    exact effort_dispatch isOpen lively standing woke
  · split at advanced <;> rename_i writable <;> cases advanced
    refine (Eases.afterLine isOpen lively _ _ _).effort_lt ?_
    simp only [effort, World.strain, standing, if_neg writable]
    omega
  · split at advanced <;> rename_i writable <;> cases advanced
    rename_i rest due
    have bounded := effort_afterProbe isOpen rest due
    simp only [effort, World.strain, standing, if_neg writable] at bounded ⊢
    omega

theorem rests_moves (sane : Sane w.stage w) (lively : w.session.clock.interval ≠ some 0) {n : Nat}
    (enough : w.effort ≤ n) : (moves n w).Rests := by
  induction n generalizing w with
  | zero =>
    cases advanced : w.advance? with
    | none => exact advanced
    | some v =>
      have less := effort_advance (sane.running advanced) lively advanced
      omega
  | succ n inductionHypothesis =>
    cases advanced : w.advance? with
    | none =>
      rw [moves_of_rests advanced]
      exact advanced
    | some v =>
      have less := effort_advance (sane.running advanced) lively advanced
      have moved : w.after .move = v := by simp [World.after, advanced]
      have later := sane.after .move
      have interval := interval_after sane .move
      rw [moved] at later interval
      rw [moves_succ advanced]
      exact inductionHypothesis later (interval ▸ lively) (by omega)

/-- A session that is left to move comes to rest. -/
theorem settle_rests (sane : Sane w.stage w) (lively : w.session.clock.interval ≠ some 0) :
    w.settle.Rests := rests_moves sane lively w.effort_le_work

end World

end Lifeline
