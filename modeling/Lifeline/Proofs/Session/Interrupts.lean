import Lifeline.Proofs.Session.LastCycle

/-! # Ctrl+C

A wait listens to Ctrl+C before it asks for anything else, so a session that is suspended in its wait
ends with it at once.  A write does not listen: a session that is suspended in a pending write stays
where it is, until the stream takes or refuses the write.  Then it finishes its cycle and stops at
the head of the next one, as it does after any other stop request.
-/

namespace Lifeline

namespace World

variable {w v : World}

/-! ## In the wait -/

/-- A session whose next move is its last one settles with it. -/
theorem settle_of_rests (advanced : w.advance? = some v) (rests : v.Rests) : w.settle = v :=
  (moves_succ advanced _).trans (moves_of_rests rests _)

theorem rests_finish (w : World) (outcome : Outcome) : (w.finish outcome).Rests := rfl

theorem history_finish (isOpen : w.session.transport.closed = false) (outcome : Outcome) :
    (w.finish outcome).history = w.history ++
      [⟨w.now, .entered outcome.state⟩,
        ⟨w.now, .exchanged (.shutDown w.session.transport.stream.shutdownFailure)⟩] :=
  (stamped_finish w outcome).records (happenings_finish isOpen outcome)

theorem settle_of_interrupted {deadline : Nat} (waiting : w.phase = .waiting deadline)
    (pressed : w.stop.interrupted = true) : w.settle = w.finish .interrupted := by
  refine settle_of_rests ?_ (rests_finish w _)
  rw [advance_waiting waiting, wake?_of_interrupted pressed]
  rfl

theorem interrupted_press (stop : Stop) : stop.press.interrupted = true := by
  unfold Stop.press
  split
  · assumption
  · rfl

/-! ## In a pending write -/

theorem pendingWrite?_eq (phase : v.phase = w.phase) : v.pendingWrite? = w.pendingWrite? := by
  simp only [pendingWrite?, phase]

namespace IsHeld

theorem rests (held : w.IsHeld) : w.Rests := rests_iff.mpr (.inr (.inr (.inr held)))

theorem not_waiting (held : w.IsHeld) (deadline : Nat) : w.phase ≠ .waiting deadline := by
  intro waiting
  simp [IsHeld, pendingWrite?, waiting] at held

theorem isRunning (held : w.IsHeld) : w.stage.isRunning = true := by
  unfold stage
  cases standing : w.phase with
  | sendingLine | sendingProbe => rfl
  | _ => simp [IsHeld, pendingWrite?, standing] at held

theorem begun (held : w.IsHeld) : w.stage ≠ .created := by
  intro created
  have running := held.isRunning
  rw [created] at running
  cases running

/-- Nothing but the stream lets a pending write go on. -/
theorem after (held : w.IsHeld) {occurrence : Occurrence}
    (other : occurrence ≠ .act (.stream .unblock)) :
    (w.after occurrence).IsHeld ∧ (w.after occurrence).phase = w.phase ∧
      (w.after occurrence).doings = w.doings := by
  cases occurrence with
  | elapse => exact ⟨held, rfl, rfl⟩
  -- the session has neither a move to make nor a run to begin
  | move =>
    have same : w.after .move = w := by
      simp only [World.after, show w.advance? = none from held.rests, Option.getD_none]
    exact same.symm ▸ ⟨held, rfl, rfl⟩
  | begin =>
    have same : w.after .begin = w := by
      simp only [World.after, World.begin]
      split
      · rename_i created
        exact absurd (by rw [stage, created]; rfl) held.begun
      · rfl
    exact same.symm ▸ ⟨held, rfl, rfl⟩
  | act act =>
    have phase : (w.after (.act act)).phase = w.phase := w.phase_apply act
    have meets : w.Meets (.act act) (w.after (.act act)) := w.apply_meets act
    generalize w.after (.act act) = v at phase meets
    have writing : v.pendingWrite?.isSome = true := pendingWrite?_eq phase ▸ held.1
    cases meets with
    | stream change =>
      -- of all changes of the stream, one alone lifts the block
      cases change with
      | unblock => exact absurd rfl other
      | block => exact ⟨⟨writing, rfl⟩, phase, rfl⟩
      | _ => exact ⟨⟨writing, held.2⟩, phase, rfl⟩
    | @queued text =>
      refine ⟨⟨writing, held.2⟩, phase, ?_⟩
      rw [doings_more (w.happenings_enqueue text)]
      exact List.append_nil _
    | _ => exact ⟨⟨writing, held.2⟩, phase, rfl⟩

theorem follow (held : w.IsHeld) {course : List Occurrence}
    (others : ∀ occurrence ∈ course, occurrence ≠ .act (.stream .unblock)) :
    (w.follow course).IsHeld ∧ (w.follow course).phase = w.phase ∧
      (w.follow course).doings = w.doings := by
  induction course generalizing w with
  | nil => exact ⟨held, rfl, rfl⟩
  | cons occurrence course inductionHypothesis =>
    obtain ⟨still, phase, doings⟩ := held.after (others occurrence (by simp))
    obtain ⟨later, samePhase, sameDoings⟩ :=
      inductionHypothesis still fun other member => others other (by simp [member])
    exact ⟨later, samePhase.trans phase, sameDoings.trans doings⟩

end IsHeld

/-! ## Every session -/

/-- Ctrl+C ends a session that is suspended in its wait with outcome `interrupted`, without any time
    passing, and all that happens is that it enters its last state and asks for the shutdown.

    A session that is suspended in a pending write goes on with it: until the stream is unblocked
    nothing happens, whatever time passes and whatever is typed.  From then on it does no more than
    what its cycle has left, begins no wait, and settles ended or in another pending write. -/
theorem follow_interrupt (stream : Stream) (options : Options) (filter : Filter) (created : Nat)
    (course : List Occurrence) (lively : options.heartbeatInterval ≠ some 0) :
    let w := (opened stream options filter created).follow course
    let pressed := w.after (.act .ctrlC)
    (w.IsSuspended → ∃ failure, pressed.settle.phase = .ended .interrupted ∧
      pressed.settle.now = w.now ∧ pressed.settle.history = w.history ++
        [⟨w.now, .entered .closedClean⟩, ⟨w.now, .exchanged (.shutDown failure)⟩]) ∧
    (w.IsHeld → pressed.settle = pressed ∧ ∀ later,
      let v := pressed.follow later
      ((∀ occurrence ∈ later, occurrence ≠ .act (.stream .unblock)) →
        v.phase = w.phase ∧ v.doings = w.doings) ∧
      (∀ deadline, v.phase ≠ .waiting deadline) ∧
      (v.settle.phase.isOver = true ∨ v.settle.IsHeld) ∧
      ∃ new, v.history = w.history ++ new ∧
        (new.filterMap (·.what.deed?)).Sublist w.stage.toDo ∧
        ∀ outcome, v.phase = .ended outcome →
          outcome.HasCause w.stage (new.map (·.what)) v) := by
  intro w pressed
  have opening := sane_opened stream options filter created
  have sane : Sane w.stage w := opening.follow course
  have stillSane : Sane pressed.stage pressed := sane.after (.act .ctrlC)
  have interval : w.session.clock.interval = options.heartbeatInterval :=
    interval_follow opening course
  have interrupted : pressed.stop.interrupted = true := interrupted_press w.stop
  constructor
  · rintro ⟨-, deadline, waiting⟩
    have standing : pressed.stage = .waiting deadline := congrArg Phase.stage waiting
    have isOpen : pressed.session.transport.closed = false :=
      stillSane.trans (congrArg Stage.isOver standing)
    -- the wait ends with the interrupt alone, and its dispatch is the end of the session
    rw [settle_of_interrupted (show pressed.phase = .waiting deadline from waiting) interrupted]
    exact ⟨_, rfl, (stamped_finish pressed .interrupted).1, history_finish isOpen .interrupted⟩
  · intro held
    have stillHeld : pressed.IsHeld := held
    have requested : pressed.stop.requested = true := by
      rw [Stop.requested, interrupted]
      rfl
    refine ⟨moves_of_rests stillHeld.rests _, fun later => ⟨fun others => ?_, ?_, ?_, ?_⟩⟩
    · obtain ⟨-, phase, doings⟩ := stillHeld.follow others
      exact ⟨phase, doings⟩
    · -- it does not wait when Ctrl+C is pressed, so it never waits again
      exact fun deadline waiting => stillHeld.not_waiting deadline
        (LastCycle.waiting_before stillSane requested [] later waiting)
    · obtain ended | stuck | ⟨deadline, waiting, -⟩ :=
        LastCycle.settle_cases stillSane (interval ▸ lively) stillHeld.begun requested later
      · exact .inl ended
      · exact .inr stuck
      · exact absurd waiting (stillHeld.not_waiting deadline)
    · exact LastCycle.exists_records stillSane stillHeld.isRunning requested later

/-- Ctrl+C in the first wait of a session, and in its first write while that is pending. -/
theorem follow_interrupt_first :
    let waiting := (opened {} ⟨some second, [0], 1, "quit"⟩ (.sentinel [0]) 0).follow [.begin, .move]
    let writing := (opened {} ⟨some second, [0], 1, "quit"⟩ (.sentinel [0]) 0).follow
      [.begin, .move, .act (.stream .block), .act (.line "a"), .move]
    (waiting.after (.act .ctrlC)).settle.phase = .ended .interrupted ∧
      (writing.after (.act .ctrlC)).settle = writing.after (.act .ctrlC) := by
  intro waiting writing
  obtain ⟨ends, -⟩ := follow_interrupt {} ⟨some second, [0], 1, "quit"⟩ (.sentinel [0]) 0
    [.begin, .move] (by decide)
  obtain ⟨-, holds⟩ := follow_interrupt {} ⟨some second, [0], 1, "quit"⟩ (.sentinel [0]) 0
    [.begin, .move, .act (.stream .block), .act (.line "a"), .move] (by decide)
  obtain ⟨-, ended, -⟩ := ends ⟨rfl, second, rfl⟩
  exact ⟨ended, (holds ⟨rfl, rfl⟩).1⟩

/-- A session that is suspended in a pending write does not end with the first Ctrl+C, as it does in
    its wait. -/
theorem follow_interrupt_held :
    let w := (opened {} ⟨some second, [0], 1, "quit"⟩ (.sentinel [0]) 0).follow
      [.begin, .move, .act (.stream .block), .act (.line "a"), .move]
    w.Rests ∧ w.stage.isRunning = true ∧ w.stop.interrupted = false ∧
      (w.after (.act .ctrlC)).settle.phase ≠ .ended .interrupted :=
  ⟨rfl, rfl, rfl, nofun⟩

end World

end Lifeline
