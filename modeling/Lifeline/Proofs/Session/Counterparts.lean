import Lifeline.Proofs.Session.Runs

/-! # Sessions beside each other

Two worlds are `Alike` if the same time has been reached, the same lines wait, the same stops were
asked for, and the history of the second is the part of the first one's that is kept.  Of their
sessions only a relation is known, which a `Comparison` makes sure to be kept by all that does not
concern it.

They stand `Beside` each other if their phases are level too, or else the second still waits where the
first one woke for nothing and went on to its next wait.
-/

namespace Lifeline

open World

/-! ## Worlds that are alike -/

structure Alike (keep : Happening → Bool) (S : Session → Session → Prop) (w w' : World) : Prop where
  now : w'.now = w.now
  operator : w'.operator = w.operator
  stop : w'.stop = w.stop
  session : S w.session w'.session
  history : w'.history = w.history.filter fun record => keep record.what

/-- What is kept of a history, and which sessions are compared.  The sessions agree on all but what
    the comparison is about. -/
structure Comparison (keep : Happening → Bool) (S : Session → Session → Prop) : Prop where
  settings {s s' : Session} (compared : S s s') : s'.settings = s.settings
  closed {s s' : Session} (compared : S s s') : s'.transport.closed = s.transport.closed
  blocked {s s' : Session} (compared : S s s') :
    s'.transport.stream.blocked = s.transport.stream.blocked
  shutdown {s s' : Session} (compared : S s s') :
    s'.transport.stream.shutdownFailure = s.transport.stream.shutdownFailure
  enters {s s' : Session} (compared : S s s') (state : State) :
    S { s with state } { s' with state }
  closes {s s' : Session} (compared : S s s') :
    S { s with transport := { s.transport with closed := true } }
      { s' with transport := { s'.transport with closed := true } }
  entered (state : State) : keep (.entered state) = true
  queued (line : String) : keep (.queued line) = true
  shutDown (failure : Option Cause) : keep (.exchanged (.shutDown failure)) = true
  farewell : keep (.shown .farewell) = true
  skipped : keep (.shown .skipped) = true

namespace Alike

variable {keep : Happening → Bool} {S : Session → Session → Prop} {w w' : World}

theorem note (alike : Alike keep S w w') {happenings kept : List Happening}
    (filtered : happenings.filter keep = kept) : Alike keep S (w.note happenings) (w'.note kept) where
  now := alike.now
  operator := alike.operator
  stop := alike.stop
  session := alike.session
  history := by
    have history : (w.note happenings).history = w.history ++ happenings.map (Record.mk w.now) := rfl
    have history' : (w'.note kept).history = w'.history ++ kept.map (Record.mk w'.now) := rfl
    rw [history, history', alike.history, alike.now, List.filter_append, List.filter_map, ← filtered]
    rfl

/-- The sessions change, and the phases may be any. -/
theorem adjust (alike : Alike keep S w w') {session session' : Session}
    (compared : S session session') (phase phase' : Phase) :
    Alike keep S { w with session, phase } { w' with session := session', phase := phase' } :=
  ⟨alike.now, alike.operator, alike.stop, compared, alike.history⟩

theorem moveTo (alike : Alike keep S w w') (phase phase' : Phase) :
    Alike keep S { w with phase } { w' with phase := phase' } :=
  alike.adjust alike.session phase phase'

theorem emit (alike : Alike keep S w w') {event : Event} (kept : keep (.shown event) = true) :
    Alike keep S (w.emit event) (w'.emit event) := alike.note (by simp [kept])

/-- What is not kept is recorded of the first session alone. -/
theorem note_left (alike : Alike keep S w w') {happenings : List Happening}
    (dropped : happenings.filter keep = []) : Alike keep S (w.note happenings) w' := by
  have unchanged : w'.note [] = w' := by simp [World.note]
  exact unchanged ▸ alike.note dropped

theorem asked (alike : Alike keep S w w') : Alike keep S w.asked w'.asked :=
  ⟨alike.now, by simp only [World.asked, alike.operator], alike.stop, alike.session, alike.history⟩

theorem later (alike : Alike keep S w w') (time : Nat) :
    Alike keep S { w with now := time } { w' with now := time } :=
  ⟨rfl, alike.operator, alike.stop, alike.session, alike.history⟩

/-- What comes from outside, but not from the stream, comes to both. -/
theorem apply (alike : Alike keep S w w') (comparison : Comparison keep S)
    (ending : w'.phase.isOver = w.phase.isOver) {act : Act} (other : ∀ change, act ≠ .stream change) :
    Alike keep S (w.apply act).2 (w'.apply act).2 := by
  cases act with
  | stream change => exact absurd rfl (other change)
  | line text =>
    simp only [World.apply, enterLine_eq, alike.operator, ending]
    split
    · have added : Alike keep S
          { w with operator := { w.operator with lines := w.operator.lines ++ [text] } }
          { w' with operator := { w'.operator with lines := w'.operator.lines ++ [text] } } :=
        ⟨alike.now, by simp only [alike.operator], alike.stop, alike.session, alike.history⟩
      exact added.note (by simp [comparison.queued])
    · exact alike
  | closeInput =>
    exact ⟨alike.now, congrArg Operator.Queue.close alike.operator, alike.stop, alike.session,
      alike.history⟩
  | sleep milliseconds =>
    simp only [World.apply, alike.now]
    exact alike.later (w.now + milliseconds * millisecond)
  | ctrlC =>
    exact ⟨alike.now, alike.operator, congrArg Stop.press alike.stop, alike.session, alike.history⟩
  | installHandlers =>
    exact ⟨alike.now, alike.operator, congrArg Stop.install alike.stop, alike.session, alike.history⟩
  | signal signal =>
    exact ⟨alike.now, alike.operator, congrArg (Stop.deliver · signal) alike.stop, alike.session,
      alike.history⟩

theorem tryTake (alike : Alike keep S w w') : w'.operator.tryTake.1 = w.operator.tryTake.1 := by
  rw [alike.operator]

variable (comparison : Comparison keep S)

include comparison

theorem isOpen (alike : Alike keep S w w') (isOpen : w.session.transport.closed = false) :
    w'.session.transport.closed = false := (comparison.closed alike.session).trans isOpen

theorem finish (alike : Alike keep S w w') (isOpen : w.session.transport.closed = false)
    (outcome : Outcome) : Alike keep S (w.finish outcome) (w'.finish outcome) := by
  have shutdown := comparison.shutdown alike.session
  have closing {x : World} (isOpen : x.session.transport.closed = false) :
      x.finish outcome = { x.note [.entered outcome.state,
        .exchanged (.shutDown x.session.transport.stream.shutdownFailure)] with
          session := x.closedSession outcome
          phase := .ended outcome } := by
    have stillOpen : (x.enter outcome.state).session.transport.closed = false := isOpen
    rw [World.finish, closeTransport_of_open stillOpen]
    simp [World.enter, World.note, World.closedSession]
  rw [closing isOpen, closing (alike.isOpen comparison isOpen), shutdown]
  refine (alike.note ?_).adjust (comparison.enters (comparison.closes alike.session) _) _ _
  simp [comparison.entered, comparison.shutDown]

end Alike

/-! ## Waits -/

/-- No probe is due while the deadline of a wait is still to come. -/
theorem World.Regular.early {w : World} {interval : Option Nat} (regular : w.Regular interval)
    {deadline : Nat} (waiting : w.phase = .waiting deadline) (early : w.now < deadline) :
    w.session.clock.isDue w.now = false := by
  obtain ⟨begun, past, since, set⟩ := regular.timekept.wait deadline (deadline?_stage.mpr waiting)
  cases beating : w.session.clock.interval with
  | none => exact Clock.not_isDue beating _
  | some interval =>
    have reached := Clock.deadline_le_iff beating past since regular.whole
    rw [← set] at reached
    exact Bool.eq_false_iff.mpr fun due => Nat.not_le_of_lt early (reached.mpr due)

/-! ## Phases -/

/-- A phase without the read in hand. -/
def Phase.unread : Phase → Phase
  | .sendingLine text rest _ => .sendingLine text rest none
  | phase => phase

namespace World

variable {w w' v : World}

theorem phase_applyAll (w : World) (acts : List Act) : (w.applyAll acts).2.phase = w.phase :=
  applyAll_keeps (I := fun v => v.phase = w.phase)
    (fun _ same => (phase_apply ..).trans same) rfl

/-- Asking a queue that has nothing changes nothing. -/
theorem asked_of_nothing (noLine : w.operator.tryTake.1 = none) : w.asked = w := by
  have queue : w.operator.tryTake.2 = w.operator := by
    unfold Operator.Queue.tryTake at noLine ⊢
    split at noLine
    · cases noLine
    · rfl
  simp only [asked, queue]

/-- A session that finds neither a line nor anything to read is left as it is. -/
theorem receive_of_nothing (isOpen : w.session.transport.closed = false)
    (noLine : w.operator.tryTake.1 = none) (noRead : w.asked.receive.1 = none) :
    w.asked.receive.2 = w := by
  have receives : Receives w.asked w.asked.receive.1 w.asked.receive.2 := receive_receives isOpen
  rw [noRead] at receives
  generalize w.asked.receive.2 = x at receives
  cases receives
  exact asked_of_nothing noLine

/-- A session that finds nothing when its wait is over, and has no probe to send, goes on to wait. -/
theorem exists_moves_idle (isOpen : w.session.transport.closed = false)
    (quiet : w.stop.requested = false) (noLine : w.operator.tryTake.1 = none)
    (noRead : w.asked.receive.1 = none) (early : w.session.clock.isDue w.now = false) {deadline : Nat}
    (waiting : w.phase = .waiting deadline) :
    ∃ n deadline, moves n w = { w with phase := .waiting deadline } ∧ (moves n w).Rests := by
  have calm : w.stop.interrupted = false := by
    simp only [Stop.requested, Bool.or_eq_false_iff] at quiet
    exact quiet.1
  have unread := receive_of_nothing isOpen noLine noRead
  have suspends {deadline : Nat} (later : w.now < deadline) :
      ({ w with phase := .waiting deadline } : World).Rests := by
    refine (rests_waiting_iff rfl).mpr (wake?_eq_none_iff.mpr ⟨calm, ?_⟩)
    have same : ({ w with phase := .waiting deadline } : World).asked.session = w.asked.session := rfl
    simp only [IsRoused, receive_outcome same, noLine, noRead, Option.isSome_none,
      Bool.false_eq_true, false_or, Nat.not_le]
    exact later
  have standing : { w with phase := .waiting deadline } = w := by rw [← waiting]
  by_cases later : w.now < deadline
  · exact ⟨0, deadline, standing.symm, standing ▸ suspends later⟩
  · have woke := wake?_of_roused calm (.inr (.inr (Nat.not_lt.mp later)))
    have found : w.woken = ({}, w) := by rw [woken, noLine, noRead, unread]
    have idled : w.advance? = some { w with phase := .atHead } := by
      rw [advance_waiting waiting, woke, found]
      simp [dispatch, World.afterOperator, World.afterStream, checkHeartbeat, early, afterProbe]
    have next := advance_head (w := { w with phase := .atHead }) rfl
    rw [if_neg (by simpa using quiet)] at next
    have moved : moves 2 w = { w with phase := .waiting w.deadline } := by
      rw [moves_succ idled, moves_one next]
      rfl
    exact ⟨2, w.deadline, moved, moved ▸ suspends (Clock.lt_deadline early)⟩

end World

/-! ## Worlds beside each other -/

variable {keep : Happening → Bool} {S : Session → Session → Prop} {w w' v : World}

/-- The phases are the same up to the read in hand. -/
structure Level (keep : Happening → Bool) (S : Session → Session → Prop) (w w' : World) : Prop where
  alike : Alike keep S w w'
  phase : w'.phase = w.phase.unread

/-- The second session is level with the first or still waits, while the first waits anew or is about
    to. -/
inductive Beside (keep : Happening → Bool) (S : Session → Session → Prop) (w w' : World) : Prop where
  | level (level : Level keep S w w')
  | behind (alike : Alike keep S w w') {deadline : Nat} (waiting : w'.phase = .waiting deadline)
      (again : (∃ deadline, w.phase = .waiting deadline) ∨
        (w.phase = .atHead ∧ w.stop.requested = false))

theorem Level.begin (alike : Alike keep S w w') (comparison : Comparison keep S)
    (created : w.phase = .created) (created' : w'.phase = .created) :
    Level keep S w.begin w'.begin := by
  unfold World.begin
  rw [created, created']
  have entered : Alike keep S { w with session := { w.session with state := .active } }
      { w' with session := { w'.session with state := .active } } :=
    alike.adjust (comparison.enters alike.session .active) w.phase w'.phase
  exact ⟨(entered.note (by simp [comparison.entered])).moveTo .atHead .atHead, rfl⟩

namespace Beside

theorem alike (beside : Beside keep S w w') : Alike keep S w w' := by
  cases beside with
  | level level => exact level.alike
  | behind alike => exact alike

theorem outcome (beside : Beside keep S w w') : w'.phase.outcome? = w.phase.outcome? := by
  cases beside with
  | level level =>
    rw [level.phase]
    cases w.phase <;> rfl
  | behind _ waiting again =>
    obtain ⟨_, standing⟩ | ⟨standing, -⟩ := again <;> rw [waiting, standing] <;> rfl

theorem isOver (beside : Beside keep S w w') : w'.phase.isOver = w.phase.isOver := by
  have outcome := beside.outcome
  cases standing : w.phase <;> cases standing' : w'.phase <;>
    simp_all [Phase.outcome?, Phase.isOver]

/-- Where the first session waits, the second one does. -/
theorem exists_waiting (beside : Beside keep S w w') {deadline : Nat}
    (waiting : w.phase = .waiting deadline) : ∃ deadline, w'.phase = .waiting deadline := by
  cases beside with
  | level level => exact ⟨deadline, by rw [level.phase, waiting]; rfl⟩
  | behind _ waiting' => exact ⟨_, waiting'⟩

/-- A session that is behind waits while the other one waits anew. -/
theorem level_of_busy (beside : Beside keep S w w') (busy : w.phase ≠ .atHead)
    (noWait : ∀ deadline, w.phase ≠ .waiting deadline) : Level keep S w w' := by
  cases beside with
  | level level => exact level
  | behind _ _ again =>
    obtain ⟨deadline, waiting⟩ | ⟨head, -⟩ := again
    · exact absurd waiting (noWait deadline)
    · exact absurd head busy

/-- What reaches a session that rests moves it nowhere. -/
theorem met {x x' : World} (beside : Beside keep S w w') (rests : w.Rests) (alike : Alike keep S x x')
    (phase : x.phase = w.phase) (phase' : x'.phase = w'.phase) : Beside keep S x x' := by
  cases beside with
  | level level => exact .level ⟨alike, by rw [phase', level.phase, phase]⟩
  | behind _ waiting again =>
    refine .behind alike (phase'.trans waiting) (.inl ?_)
    obtain waits | ⟨head, -⟩ := again
    · rwa [phase]
    · rw [Rests, advance_head head] at rests
      cases rests

variable (comparison : Comparison keep S)

include comparison

theorem finish (alike : Alike keep S w w') (isOpen : w.session.transport.closed = false)
    (outcome : Outcome) : Level keep S (w.finish outcome) (w'.finish outcome) :=
  ⟨alike.finish comparison isOpen outcome, rfl⟩

/-- At the head of the loop a session ends or begins to wait. -/
theorem move_head (beside : Beside keep S w w') (isOpen : w.session.transport.closed = false)
    (head : w.phase = .atHead) (advanced : w.advance? = some v) :
    ∃ n, Beside keep S v (moves n w') := by
  have alike := beside.alike
  obtain rfl := Option.some.inj ((advance_head head).symm.trans advanced)
  cases beside with
  | level level =>
    have head' : w'.phase = .atHead := by rw [level.phase, head]; rfl
    have stop : w'.stop.requested = w.stop.requested := by rw [alike.stop]
    refine ⟨1, ?_⟩
    rw [moves_one (advance_head head'), stop]
    split
    · exact .level (finish comparison alike isOpen _)
    · exact .behind (alike.moveTo _ _) rfl (.inl ⟨_, rfl⟩)
  | behind _ waiting again =>
    obtain ⟨_, waits⟩ | ⟨-, quiet⟩ := again
    · rw [head] at waits
      cases waits
    · rw [if_neg (by simp [quiet])]
      exact ⟨0, .behind (alike.moveTo _ w'.phase) waiting (.inl ⟨_, rfl⟩)⟩

/-- Ctrl+C ends both sessions where they wait. -/
theorem move_interrupted (beside : Beside keep S w w') (isOpen : w.session.transport.closed = false)
    {deadline : Nat} (waiting : w.phase = .waiting deadline) (pressed : w.stop.interrupted = true) :
    ∃ n, Beside keep S (w.finish .interrupted) (moves n w') := by
  obtain ⟨deadline', waiting'⟩ := beside.exists_waiting waiting
  have pressed' : w'.stop.interrupted = true := by rw [beside.alike.stop, pressed]
  have ended : w'.advance? = some (w'.finish .interrupted) := by
    rw [advance_waiting waiting', wake?_of_interrupted pressed']
    simp [World.dispatch]
  exact ⟨1, by rw [moves_one ended]; exact .level (finish comparison beside.alike isOpen _)⟩

/-- The end of a wait.  If the second session wakes too, the cycles are level; if it does not, the first
    one found nothing that the second would have had to handle. -/
theorem move_wait (beside : Beside keep S w w') (isOpen : w.session.transport.closed = false)
    (untold : w.stop.terminating = false) {deadline : Nat} (waiting : w.phase = .waiting deadline)
    (advanced : w.advance? = some v)
    (cycle : v = w.woken.2.dispatch w.woken.1 → ∀ deadline, w'.phase = .waiting deadline →
      (w'.IsRoused deadline → Level keep S v (w'.woken.2.dispatch w'.woken.1)) ∧
      (¬w'.IsRoused deadline → ∃ x, Alike keep S x w' ∧ v = { x with phase := .atHead })) :
    ∃ n, Beside keep S v (moves n w') := by
  have alike := beside.alike
  obtain ⟨deadline', waiting'⟩ := beside.exists_waiting waiting
  rw [advance_waiting waiting] at advanced
  obtain ⟨⟨ready, woken⟩, woke, same⟩ := Option.map_eq_some_iff.mp advanced
  obtain ⟨pressed, rfl, rfl⟩ | ⟨calm, -, found⟩ := wake?_cases woke
  · have ended : v = woken.finish .interrupted := by rw [← same]; rfl
    exact ended ▸ beside.move_interrupted comparison isOpen waiting pressed
  · have calm' : w'.stop.interrupted = false := by rw [alike.stop, calm]
    obtain ⟨awake, asleep⟩ := cycle (by rw [← same, ← found]) deadline' waiting'
    by_cases roused' : w'.IsRoused deadline'
    · have woke' : w'.advance? = some (w'.woken.2.dispatch w'.woken.1) := by
        rw [advance_waiting waiting', wake?_of_roused calm' roused']
        rfl
      exact ⟨1, by rw [moves_one woke']; exact .level (awake roused')⟩
    · obtain ⟨x, related, headed⟩ := asleep roused'
      have quiet : x.stop.requested = false := by
        rw [← related.stop, alike.stop, Stop.requested, calm, untold]
        rfl
      rw [headed]
      exact ⟨0, .behind (related.moveTo .atHead w'.phase) waiting' (.inr ⟨rfl, quiet⟩)⟩

/-- Where the first session rests, the second one comes to rest. -/
theorem rest (beside : Beside keep S w w') (sane : Sane w.stage w) (rests : w.Rests)
    (idle : ∀ deadline, w.phase = .waiting deadline →
      w.stop.terminating = false ∧ w'.asked.receive.1 = none ∧
        w'.session.clock.isDue w'.now = false) :
    ∃ n, Beside keep S w (moves n w') ∧ (moves n w').Rests := by
  have alike := beside.alike
  by_cases waits : ∃ deadline, w.phase = .waiting deadline
  · obtain ⟨deadline, waiting⟩ := waits
    obtain ⟨deadline', waiting'⟩ := beside.exists_waiting waiting
    have isOpen : w.session.transport.closed = false := sane.trans (by rw [stage, waiting]; rfl)
    obtain ⟨calm, asleep⟩ := wake?_eq_none_iff.mp ((rests_waiting_iff waiting).mp rests)
    simp only [IsRoused, not_or, Bool.not_eq_true, Option.isSome_eq_false_iff,
      Option.isNone_iff_eq_none] at asleep
    obtain ⟨untold, noRead, early⟩ := idle deadline waiting
    have quiet : w'.stop.requested = false := by
      rw [alike.stop, Stop.requested, calm, untold]
      rfl
    have noLine : w'.operator.tryTake.1 = none := alike.tryTake.trans asleep.1
    obtain ⟨n, later, moved, rested⟩ := exists_moves_idle (alike.isOpen comparison isOpen) quiet noLine
      noRead early waiting'
    refine ⟨n, ?_, rested⟩
    rw [moved]
    exact .behind (alike.moveTo w.phase _) rfl (.inl ⟨deadline, waiting⟩)
  · refine ⟨0, beside, ?_⟩
    cases beside with
    | behind _ _ again =>
      obtain waiting | ⟨head, -⟩ := again
      · exact absurd waiting waits
      · rw [Rests, advance_head head] at rests
        cases rests
    | level level =>
      -- a blocked write holds up both
      have phase := level.phase
      have blocked := comparison.blocked alike.session
      unfold Rests advance? at rests ⊢
      rw [moves, phase, blocked]
      cases standing : w.phase with
      | waiting deadline => exact absurd ⟨deadline, standing⟩ waits
      | created | ended => rfl
      | atHead =>
        rw [standing] at rests
        dsimp only at rests
        split at rests <;> cases rests
      | sendingLine | sendingProbe =>
        rw [standing] at rests
        dsimp only [Phase.unread] at rests ⊢
        split at rests
        · rename_i held
          rw [if_pos held]
        · cases rests

end Beside

/-- What is ready in both sessions but for the read is handled alike, if the rest of the cycle is. -/
theorem Alike.dispatch {T : World → World → Prop} (alike : Alike keep S w w')
    (comparison : Comparison keep S) (isOpen : w.session.transport.closed = false)
    (operator : Option Operator.Input) (read read' : Option ReadOutcome)
    (finished : ∀ {x x'}, Alike keep S x x' → x.session.transport.closed = false →
      ∀ outcome, T (x.finish outcome) (x'.finish outcome))
    (answered : ∀ {x x'}, Alike keep S x x' → x.session.transport.closed = false →
      T (x.afterOperator read) (x'.afterOperator read'))
    (sent : ∀ text rest, T (World.afterLine text read (w.sendLine text rest))
      (World.afterLine text read' (w'.sendLine text rest))) :
    T (w.dispatch ⟨operator, read, false⟩) (w'.dispatch ⟨operator, read', false⟩) := by
  have keyword : w'.session.quitKeyword = w.session.quitKeyword :=
    congrArg Prod.snd (comparison.settings alike.session)
  match operator with
  | none => exact answered alike isOpen
  | some .closed => exact finished alike isOpen _
  | some (.line text) =>
    cases asked : Operator.isQuit text w.session.quitKeyword with
    | true =>
      simp only [World.dispatch, handleOperator, keyword, asked, Bool.false_eq_true, if_true, if_false]
      exact finished (alike.emit comparison.farewell) isOpen _
    | false =>
      cases blank : text.isEmpty with
      | true =>
        simp only [World.dispatch, handleOperator, keyword, asked, blank, Bool.false_eq_true, if_true,
          if_false]
        exact answered (alike.emit comparison.skipped) isOpen
      | false =>
        simp only [World.dispatch, handleOperator, keyword, asked, blank, Bool.false_eq_true, if_false]
        exact sent text _

end Lifeline
