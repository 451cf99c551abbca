import Lifeline.Proofs.Session.Course

/-! # The life of a session

A session is created connecting, becomes active once, and reaches one closed state, the one its
outcome decides.  It asks for the shutdown of its stream once, last of all, when it ends.  The
operator is shown traffic, and then at most one event that ends it.

The invariant is `Lifecycle`, read at the stage where the session stands.  While the session runs,
a turn only adds happenings that change none of this (`Lifecycle.extend`); every way to end goes
through `Lifecycle.finish`.
-/

namespace Lifeline

/-! ## What a stage allows -/

/-- Whether an event is one of those that a session shows any number of times. -/
def Event.isTraffic : Event → Bool
  | .sent _ | .received _ | .skipped => true
  | .connected _ _ | .farewell | .peerClosed => false

/-- The events that the operator is shown because a session ends. -/
def Outcome.ending : Outcome → List Event
  | .operatorQuit => [.farewell]
  | .peerClosed => [.peerClosed]
  | .inputClosed | .interrupted | .fault _ => []

def Outcome.fault? : Outcome → Option Fault
  | .fault reason => some reason
  | _ => none

def readFault? : Option ReadOutcome → Option Fault
  | some (.error fault) => some fault
  | _ => none

namespace Stage

def states : Stage → List State
  | .created => [.connecting]
  | .ended outcome => [.connecting, .active, outcome.state]
  | _ => [.connecting, .active]

def ending : Stage → List Event
  | .ended outcome => outcome.ending
  | _ => []

/-- The fault that a read in hand or the outcome tells. -/
def fault? : Stage → Option Fault
  | .woken _ read | .answered read | .sendingLine _ _ read => readFault? read
  | .ended outcome => outcome.fault?
  | _ => none

def isRunning : Stage → Bool
  | .created | .ended _ => false
  | _ => true

variable {s : Stage}

theorem states_of_running (running : s.isRunning = true) : s.states = [.connecting, .active] := by
  cases s <;> first | rfl | cases running

theorem ending_of_running (running : s.isRunning = true) : s.ending = [] := by
  cases s <;> first | rfl | cases running

theorem isOver_of_running (running : s.isRunning = true) : s.isOver = false := by
  cases s <;> first | rfl | cases running

end Stage

structure Lifecycle (s : Stage) (w : World) : Prop where
  states : w.states = s.states
  current : w.states.getLast? = some w.session.state
  /-- The shutdown is the last thing asked of the stream of a session that has ended, and was never
      asked for before. -/
  shutdown : ∃ before, (∀ exchange ∈ before, exchange.isShutDown = false) ∧
    (s.isOver = false ∧ w.exchanges = before ∨
      s.isOver = true ∧ ∃ failure, w.exchanges = before ++ [.shutDown failure])
  /-- Every fault was told by the stream, not by a connection that was closed already. -/
  faults : ∀ fault ∈ s.fault?, ∃ exchange ∈ w.exchanges, exchange.fault? = some fault
  /-- The operator is shown traffic and then at most one ending event. -/
  events : ∃ traffic, (∀ event ∈ traffic, event.isTraffic = true) ∧
    w.events = traffic ++ s.ending

/-! ## The invariant -/

namespace Lifecycle

open World

variable {s t : Stage} {w v : World} {new : List Happening}

def isPlain : Happening → Bool
  | .entered _ => false
  | .queued _ => true
  | .exchanged exchange => !exchange.isShutDown
  | .shown event => event.isTraffic

theorem shutdown_of_running (life : Lifecycle s w) (running : s.isRunning = true) :
    ∀ exchange ∈ w.exchanges, exchange.isShutDown = false := by
  obtain ⟨before, quiet, ⟨-, same⟩ | ⟨ended, -⟩⟩ := life.shutdown
  · exact same ▸ quiet
  · rw [Stage.isOver_of_running running] at ended
    cases ended

theorem extend (life : Lifecycle s w) (running : s.isRunning = true) (still : t.isRunning = true)
    (state : v.session.state = w.session.state) (more : v.happenings = w.happenings ++ new)
    (plain : ∀ happening ∈ new, isPlain happening = true)
    (faults : ∀ fault ∈ t.fault?, fault ∈ s.fault? ∨
      ∃ exchange, .exchanged exchange ∈ new ∧ exchange.fault? = some fault) :
    Lifecycle t v := by
  -- no plain happening is a state, so the states passed are the same
  have entered : new.filterMap Happening.state? = [] := by
    refine List.filterMap_eq_nil_iff.mpr fun happening member => ?_
    have plain := plain happening member
    cases happening <;> first | rfl | cases plain
  have states : v.states = w.states := by rw [states_more more, entered, List.append_nil]
  refine ⟨?_, ?_, ⟨v.exchanges, ?_, .inl ⟨Stage.isOver_of_running still, rfl⟩⟩, ?_, ?_⟩
  · rw [states, life.states, Stage.states_of_running running, Stage.states_of_running still]
  · rw [states, state, life.current]
  · rw [exchanges_more more]
    intro exchange member
    obtain old | added := List.mem_append.mp member
    · exact life.shutdown_of_running running exchange old
    · simpa [isPlain] using plain _ (Happening.mem_exchanges.mp added)
  · intro fault told
    rw [exchanges_more more]
    obtain old | ⟨exchange, added, same⟩ := faults fault told
    · obtain ⟨exchange, member, same⟩ := life.faults fault old
      exact ⟨exchange, List.mem_append_left _ member, same⟩
    · exact ⟨exchange, List.mem_append_right _ (Happening.mem_exchanges.mpr added), same⟩
  · obtain ⟨traffic, only, shown⟩ := life.events
    refine ⟨traffic ++ new.filterMap Happening.event?, ?_, ?_⟩
    · intro event member
      obtain old | added := List.mem_append.mp member
      · exact only event old
      · simpa [isPlain] using plain _ (Happening.mem_events.mp added)
    · rw [events_more more, shown, Stage.ending_of_running running,
        Stage.ending_of_running still, List.append_nil, List.append_nil]

/-- A running session ends, after some last exchanges and the events that its outcome calls for. -/
theorem finish (life : Lifecycle s w) (running : s.isRunning = true)
    (more : v.happenings = w.happenings ++ new)
    (isOpen : v.session.transport.closed = false) {outcome : Outcome}
    (quiet : ∀ exchange, .exchanged exchange ∈ new → exchange.isShutDown = false)
    (entered : new.filterMap Happening.state? = [])
    (shown : new.filterMap Happening.event? = outcome.ending)
    (faults : ∀ fault ∈ outcome.fault?, fault ∈ s.fault? ∨
      ∃ exchange, .exchanged exchange ∈ new ∧ exchange.fault? = some fault) :
    Lifecycle (.ended outcome) (v.finish outcome) := by
  have ended := happenings_finish isOpen outcome
  -- the end itself adds exactly two happenings: the last state and the shutdown
  have states : (v.finish outcome).states = [.connecting, .active, outcome.state] := by
    rw [states_more ended, states_more more, entered, life.states,
      Stage.states_of_running running]
    rfl
  have exchanges : (v.finish outcome).exchanges =
      (w.exchanges ++ new.filterMap Happening.exchange?) ++
        [.shutDown v.session.transport.stream.shutdownFailure] := by
    rw [exchanges_more ended, exchanges_more more]
    rfl
  refine ⟨states, ?_, ⟨_, ?_, .inr ⟨rfl, _, exchanges⟩⟩, ?_, ?_⟩
  · rw [states, session_finish isOpen]
    rfl
  · intro exchange member
    obtain old | added := List.mem_append.mp member
    · exact life.shutdown_of_running running exchange old
    · exact quiet exchange (Happening.mem_exchanges.mp added)
  · intro fault told
    rw [exchanges]
    obtain old | ⟨exchange, added, same⟩ := faults fault told
    · obtain ⟨exchange, member, same⟩ := life.faults fault old
      exact ⟨exchange, by simp [member], same⟩
    · refine ⟨exchange, ?_, same⟩
      exact List.mem_append_left _ (List.mem_append_right _ (Happening.mem_exchanges.mpr added))
  · obtain ⟨traffic, only, before⟩ := life.events
    refine ⟨traffic, only, ?_⟩
    rw [events_more ended, events_more more, before, Stage.ending_of_running running, shown]
    simp [Happening.event?, Stage.ending]

theorem still (life : Lifecycle s w) (running : s.isRunning = true) (still : t.isRunning = true)
    (state : v.session.state = w.session.state) (same : v.happenings = w.happenings)
    (faults : ∀ fault ∈ t.fault?, fault ∈ s.fault?) : Lifecycle t v :=
  life.extend running still state (same.trans (List.append_nil _).symm) (by simp)
    fun fault told => .inl (faults fault told)

theorem sent (life : Lifecycle s w) (running : s.isRunning = true) (still : t.isRunning = true)
    {op : Operation} {payload : Bytes} {progress : Transport.Progress} {exchanges : List Exchange}
    (sent : Transport.Sent op payload progress exchanges)
    (state : v.session.state = w.session.state)
    (more : v.happenings = w.happenings ++ exchanges.map .exchanged)
    (faults : ∀ fault ∈ t.fault?, fault ∈ s.fault?) : Lifecycle t v :=
  life.extend running still state more (by simpa [isPlain] using sent.no_shutDown)
    fun fault told => .inl (faults fault told)

theorem finishSent (life : Lifecycle s w) (running : s.isRunning = true)
    (isOpen : w.session.transport.closed = false) {op : Operation} {payload : Bytes}
    {fault : Fault} {exchanges : List Exchange} {failure : Option (Cause × Nat)}
    (sent : Transport.Sent op payload (.failed fault) exchanges) :
    Lifecycle (.ended (.fault fault)) ((w.afterSend failure exchanges).finish (.fault fault)) := by
  obtain ⟨exchange, member, told⟩ := sent.exists_fault
  refine life.finish running (happenings_afterSend w failure exchanges) isOpen
    (by simpa using sent.no_shutDown) (Happening.filterMap_exchanged (fun _ => rfl) _)
    (Happening.filterMap_exchanged (fun _ => rfl) _) ?_
  rintro _ ⟨⟩
  exact .inr ⟨exchange, by simpa using member, told⟩

theorem opened (stream : Stream) (options : Options) (filter : Filter) (now : Nat) :
    Lifecycle .created (World.opened stream options filter now) :=
  ⟨rfl, rfl, ⟨[], by simp, .inl ⟨rfl, rfl⟩⟩, by simp [Stage.fault?], ⟨[], by simp, rfl⟩⟩

theorem begin (life : Lifecycle .created w) :
    Lifecycle .atHead { w.enter .active with phase := .atHead } := by
  have more : { w.enter .active with phase := .atHead }.happenings =
      w.happenings ++ [.entered .active] := happenings_enter ..
  -- a session that is only created has neither ended nor asked for anything
  obtain ⟨before, quiet, ⟨-, exchanges⟩ | ⟨ended, -⟩⟩ := life.shutdown
  · obtain ⟨traffic, only, events⟩ := life.events
    refine ⟨?_, ?_, ⟨before, quiet, .inl ⟨rfl, ?_⟩⟩, by simp [Stage.fault?], traffic, only, ?_⟩
    · rw [states_more more, life.states]
      rfl
    · rw [states_more more, life.states]
      rfl
    · rw [exchanges_more more, exchanges]
      exact List.append_nil _
    · rw [events_more more, events]
      exact List.append_nil _
  · cases ended

theorem turn (isOpen : w.session.transport.closed = false) (turn : Stage.Turn s w t v)
    (life : Lifecycle s w) : Lifecycle t v := by
  cases turn with
  | begin => exact life.begin
  | wait | takeLine | takeClose | takeNothing | noRead | hide | rest | sendProbe =>
    exact life.still rfl rfl rfl rfl (by simp [Stage.fault?, readFault?])
  | sendLine | noLine => exact life.still rfl rfl rfl rfl fun _ told => told
  | read receives =>
    cases receives with
    | nothing => exact life.still rfl rfl rfl rfl (by simp [Stage.fault?, readFault?])
    | failed =>
      refine life.extend rfl rfl rfl (happenings_exchange ..) (by simp [isPlain, Exchange.isShutDown])
        fun fault told => .inr ⟨_, List.mem_singleton.mpr rfl, told⟩
    | bytes =>
      exact life.extend rfl rfl rfl (happenings_fill ..) (by simp [isPlain, Exchange.isShutDown])
        (by simp [Stage.fault?, readFault?])
  | skip =>
    exact life.extend rfl rfl rfl (happenings_emit ..) (by simp [isPlain, Event.isTraffic])
      fun _ told => .inl told
  | display =>
    exact life.extend rfl rfl rfl (happenings_emit ..) (by simp [isPlain, Event.isTraffic])
      (by simp [Stage.fault?])
  | @lineSent _ _ _ read failure exchanges sent =>
    -- first the exchanges, then the event that confirms the line
    have delivered : Lifecycle (.answered read) ((w.afterSend failure exchanges).recordSend w.now) :=
      life.sent rfl rfl sent rfl (happenings_afterSend ..) fun _ told => told
    exact delivered.extend rfl rfl rfl (happenings_emit ..) (by simp [isPlain, Event.isTraffic])
      fun _ told => .inl told
  | lineHeld sent =>
    exact life.sent rfl rfl sent rfl (happenings_afterSend ..) fun _ told => told
  | probeSent sent | probeHeld sent =>
    exact life.sent rfl rfl sent rfl (happenings_afterSend ..) (by simp [Stage.fault?])
  | stop | interrupt | close =>
    exact life.finish rfl (List.append_nil _).symm isOpen (by simp) rfl rfl
      (by simp [Outcome.fault?])
  | quit | inputOver =>
    exact life.finish rfl (happenings_emit ..) isOpen (by simp) rfl rfl (by simp [Outcome.fault?])
  -- the fault was told when the read was made, not now
  | readFailed =>
    exact life.finish rfl (List.append_nil _).symm isOpen (by simp) rfl rfl
      fun _ told => .inl told
  | lineFailed sent | probeFailed sent => exact life.finishSent rfl isOpen sent

/-- The life of a session is a matter of its states, exchanges and events alone. -/
theorem frame (life : Lifecycle s w) (states : v.states = w.states)
    (exchanges : v.exchanges = w.exchanges) (events : v.events = w.events)
    (state : v.session.state = w.session.state) : Lifecycle s v := by
  obtain ⟨passed, current, shutdown, faults, shown⟩ := life
  rw [← states] at passed
  rw [← states, ← state] at current
  rw [← exchanges] at shutdown faults
  rw [← events] at shown
  exact ⟨passed, current, shutdown, faults, shown⟩

theorem met {occurrence : Occurrence} (meets : w.Meets occurrence v) (life : Lifecycle w.stage w) :
    Lifecycle w.stage v := by
  cases meets with
  | stream | refused | closeInput | pass | request => exact life.frame rfl rfl rfl rfl
  | @queued text =>
    have more := w.happenings_enqueue text
    refine life.frame ?_ ?_ ?_ rfl
    · exact (states_more more).trans (List.append_nil _)
    · exact (exchanges_more more).trans (List.append_nil _)
    · exact (events_more more).trans (List.append_nil _)

end Lifecycle

theorem State.not_terminal_of_mem_states {s : Stage} {state : State}
    (member : state ∈ s.states.dropLast) : state.isTerminal = false := by
  cases s <;> simp only [Stage.states, List.dropLast, List.mem_cons, List.not_mem_nil, or_false]
    at member <;> first | (subst member; rfl) | (obtain rfl | rfl := member <;> rfl)

/-- Whatever happens in whatever order, a session passes its states once each and in order, never
    leaves a terminal one, uses its connection only while it is open, asks for the shutdown exactly
    once and last when it ends, ends with a fault only if the stream told it, and shows traffic and
    then the one event that its outcome calls for. -/
theorem World.follow_lifecycle (stream : Stream) (options : Options) (filter : Filter) (now : Nat)
    (course : List Occurrence) :
    let w := (World.opened stream options filter now).follow course
    Lifecycle w.stage w ∧ (∀ state ∈ w.states.dropLast, state.isTerminal = false) ∧
      w.session.transport.closed = w.stage.isOver := by
  intro w
  have sane := World.sane_opened stream options filter now
  have life : Lifecycle w.stage w :=
    World.follow_keeps Lifecycle.turn Lifecycle.met sane (.opened stream options filter now) course
  refine ⟨life, fun state member => ?_, sane.follow course⟩
  rw [life.states] at member
  exact State.not_terminal_of_mem_states member

end Lifeline
