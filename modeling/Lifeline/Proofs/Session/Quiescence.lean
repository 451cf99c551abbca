import Lifeline.Proofs.Session.Runs
import Lifeline.Session.Live

/-! # What a session at rest has left to do

A session that has begun and is left to itself is at rest after a bounded number of moves: it has
ended, or it is suspended in its wait, or in a write that the stream keeps pending (`rests_iff`).
While it is suspended in its wait nothing that it waits for is there: no line, no byte, no end of
either, no failure, no Ctrl+C (`IsSuspended.isQuiet`).

Nor is a probe due, up to the grain of the timer: a timer fires on whole milliseconds, so a probe
that falls due between two of them is sent at the next one (`IsSuspended.deadline_of_isDue`).
-/

namespace Lifeline

open World
open Stage (Turn)

namespace World

variable {w v : World}

/-! ## Kinds of rest -/

/-- The session is suspended in a write that the stream keeps pending. -/
def IsHeld (w : World) : Prop :=
  w.pendingWrite?.isSome = true ∧ w.session.transport.stream.blocked = true

/-- A session is at rest where it was only created, where it has ended, and where it is suspended. -/
theorem rests_iff :
    w.Rests ↔ w.phase = .created ∨ w.phase.isOver = true ∨ w.IsSuspended ∨ w.IsHeld := by
  constructor
  · intro rests
    cases standing : w.phase with
    | created => exact .inl rfl
    | ended outcome => exact .inr (.inl rfl)
    | waiting deadline => exact .inr (.inr (.inl ⟨rests, deadline, standing⟩))
    | atHead =>
      -- a session at the head of its loop always goes on
      unfold Rests advance? at rests
      rw [standing] at rests
      dsimp only at rests
      split at rests <;> cases rests
    | sendingLine | sendingProbe =>
      refine .inr (.inr (.inr ⟨by rw [pendingWrite?, standing]; rfl, ?_⟩))
      unfold Rests advance? at rests
      rw [standing] at rests
      dsimp only at rests
      split at rests
      · assumption
      · cases rests
  · rintro (created | ended | suspended | ⟨writing, blocked⟩)
    · simp only [Rests, advance?, created]
    · unfold Phase.isOver at ended
      split at ended
      · rename_i standing
        simp only [Rests, advance?, standing]
      · cases ended
    · exact suspended.1
    · cases standing : w.phase with
      | sendingLine | sendingProbe => simp only [Rests, advance?, standing, blocked, if_true]
      | _ =>
        rw [pendingWrite?, standing] at writing
        cases writing

theorem begun_turn {s t : Stage} (turn : Turn s w t v) : t ≠ .created := by
  cases turn <;> exact nofun

/-- A session that has begun is not created again. -/
theorem begun_follow (sane : Sane w.stage w) (begun : w.stage ≠ .created)
    (course : List Occurrence) : (w.follow course).stage ≠ .created :=
  follow_keeps (I := fun s _ => s ≠ .created) (fun _ turn _ => begun_turn turn)
    (fun _ begun => begun) sane begun course

theorem begun_moves (sane : Sane w.stage w) (begun : w.phase ≠ .created) (n : Nat) :
    (moves n w).phase ≠ .created := by
  rw [moves_eq_follow]
  have standing : w.stage ≠ .created := by
    unfold stage
    cases phase : w.phase <;> first | exact absurd phase begun | exact nofun
  intro created
  exact begun_follow sane standing _ (by rw [stage, created]; rfl)

/-! ## A session that waits -/

/-- Nothing is there that a session waits for, its timer apart. -/
structure IsQuiet (w : World) : Prop where
  noLine : w.operator.lines = []
  awaited : w.operator.ended = false
  noByte : w.session.transport.stream.inbound = []
  unended : w.session.transport.stream.ended = false
  healthy : w.session.transport.stream.readFailure = none
  calm : w.stop.interrupted = false

namespace IsSuspended

theorem isQuiet (sane : Sane w.stage w) (suspended : w.IsSuspended) : w.IsQuiet := by
  obtain ⟨deadline, waiting⟩ := suspended.2
  obtain ⟨calm, idle⟩ := wake?_eq_none_iff.mp ((rests_waiting_iff waiting).mp suspended.1)
  simp only [IsRoused, not_or, Bool.not_eq_true, Option.isSome_eq_false_iff,
    Option.isNone_iff_eq_none] at idle
  obtain ⟨noInput, noRead, -⟩ := idle
  have isOpen : w.asked.session.transport.closed = false := by
    refine Eq.trans sane ?_
    rw [stage, waiting]
    rfl
  have receives := receive_receives isOpen
  rw [noRead] at receives
  obtain ⟨noLine, awaited⟩ : w.operator.lines = [] ∧ w.operator.ended = false := by
    unfold Operator.Queue.tryTake at noInput
    split at noInput
    · cases noInput
    · exact ⟨by assumption, by simpa using noInput⟩
  generalize w.asked.receive.2 = after at receives
  cases receives with
  | nothing received =>
    cases received with
    | nothing empty healthy unended => exact ⟨noLine, awaited, empty, unended, healthy, calm⟩

/-- A probe that is due while the session waits is sent at the next whole millisecond, with which the
    wait ends. -/
theorem deadline_of_isDue (timekept : Timekept w.stage w) (suspended : w.IsSuspended)
    {deadline : Nat} (waiting : w.phase = .waiting deadline)
    (due : w.session.clock.isDue w.now = true) : deadline = nextTick w.now := by
  obtain ⟨begun, past, reached, set⟩ := timekept.wait deadline (deadline?_stage.mpr waiting)
  have early := suspended.lt_deadline waiting
  have tick : millisecond ∣ deadline := set ▸ w.session.clock.dvd_deadline begun
  cases beating : w.session.clock.interval with
  | none => simp [Clock.not_isDue beating] at due
  | some interval =>
    have late := (Clock.isDue_iff beating timekept.past).mp due
    refine Nat.le_antisymm ?_ ((nextTick_le_iff tick).mpr (Nat.le_of_lt early))
    -- the wait was to end when the probe falls due, which is not after now
    rw [set, Clock.deadline_eq beating past, nextTick_le_iff (dvd_nextTick _)]
    exact Nat.le_trans (Nat.max_le.mpr ⟨reached, late⟩) (le_nextTick _)

theorem not_isDue (timekept : Timekept w.stage w) (suspended : w.IsSuspended)
    (whole : millisecond ∣ w.now) : w.session.clock.isDue w.now = false := by
  obtain ⟨deadline, waiting⟩ := suspended.2
  cases due : w.session.clock.isDue w.now with
  | false => rfl
  | true =>
    have early := suspended.lt_deadline waiting
    rw [suspended.deadline_of_isDue timekept waiting due, nextTick_eq_self whole] at early
    omega

end IsSuspended

/-! ## Every session -/

/-- A session that has begun and whose interval is not zero comes to rest without any time passing,
    after at most two moves for each line and each byte that waits and five more: it has ended, or
    is suspended in its wait or in a write.  Whenever it is suspended in its wait, nothing that it
    waits for is there, the deadline is still to come, and no probe is due; between two whole
    milliseconds one may be, and then the wait ends with the second of them.  The moments of a script
    are whole milliseconds. -/
theorem follow_rest (stream : Stream) (options : Options) (filter : Filter) (created : Nat)
    (course : List Occurrence) (lively : options.heartbeatInterval ≠ some 0) :
    let w := (opened stream options filter created).follow course
    (w.phase ≠ .created →
      ∃ n ≤ 2 * (w.operator.lines.length + w.session.transport.stream.inbound.length) + 5,
        (moves n w).now = w.now ∧ (moves n w).Rests ∧
        ((moves n w).phase.isOver = true ∨ (moves n w).IsSuspended ∨ (moves n w).IsHeld)) ∧
    ∀ deadline, w.phase = .waiting deadline → w.IsSuspended →
      w.IsQuiet ∧ w.now < deadline ∧
      (w.session.clock.isDue w.now = true → deadline = nextTick w.now) ∧
      (millisecond ∣ w.now → w.session.clock.isDue w.now = false) ∧
      ∀ script : Script, script.opened options filter = opened stream options filter created →
        script.Reaches options filter course → w.session.clock.isDue w.now = false := by
  intro w
  have opening := sane_opened stream options filter created
  have sane : Sane w.stage w := opening.follow course
  have timekept : Timekept w.stage w :=
    follow_keeps Timekept.turn Timekept.met opening (.opened stream options filter created) course
  have interval : w.session.clock.interval = options.heartbeatInterval :=
    interval_follow opening course
  refine ⟨fun begun => ⟨w.effort, ?_, now_moves _ sane, ?_⟩, fun deadline waiting suspended => ?_⟩
  · have bounded := w.strain_le
    simp only [effort, load]
    omega
  · have rests := rests_moves sane (interval ▸ lively) (Nat.le_refl _)
    refine ⟨rests, ?_⟩
    obtain created | kinds := rests_iff.mp rests
    · exact absurd created (begun_moves sane begun _)
    · exact kinds
  · refine ⟨suspended.isQuiet sane, suspended.lt_deadline waiting,
      suspended.deadline_of_isDue timekept waiting, suspended.not_isDue timekept,
      fun script same reached => suspended.not_isDue timekept ?_⟩
    have regular := reached.regular
    rw [same] at regular
    exact regular.whole

/-- A probe that was kept waiting for two seconds leaves its clock overdue, so the next one follows at
    once; then the session waits for the third. -/
theorem follow_rest_overdue :
    let w := (opened {} ⟨some second, [0], 1, "quit"⟩ (.sentinel [0]) 0).follow
      [.begin, .move, .act (.stream .block), .act (.sleep 1000), .move, .act (.sleep 2000),
        .act (.stream .unblock), .move, .move, .move, .move]
    (∃ n ≤ 5, (moves n w).now = 3 * second ∧ (moves n w).Rests) ∧
      w.IsQuiet ∧ w.now < 4 * second ∧ w.session.clock.isDue w.now = false := by
  intro w
  let script : Script :=
    { steps := [.batch [.stream .block, .sleep 1000], .batch [.sleep 2000],
        .single (.stream .unblock)] }
  obtain ⟨rests, waits⟩ := follow_rest {} ⟨some second, [0], 1, "quit"⟩ (.sentinel [0]) 0
    [.begin, .move, .act (.stream .block), .act (.sleep 1000), .move, .act (.sleep 2000),
      .act (.stream .unblock), .move, .move, .move, .move] (by decide)
  obtain ⟨n, few, now, atRest, -⟩ := rests nofun
  have waiting : w.phase = .waiting (4 * second) := rfl
  obtain ⟨quiet, early, -, -, notDue⟩ := waits (4 * second) waiting (by decide)
  exact ⟨⟨n, few, now, atRest⟩, quiet, early, notDue script rfl ⟨9, by decide⟩⟩

end World

end Lifeline
