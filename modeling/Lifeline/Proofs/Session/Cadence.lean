import Lifeline.Proofs.Session.Runs
import Lifeline.Proofs.Session.Sends

/-! # When probes are sent

Two invariants carry the two rules for the time of a probe.  `Punctual` is for sessions over which no
time passes but while they wait: each probe goes out when a full interval has passed since the last
send, at the next whole millisecond.  `Spaced` is for all courses: each probe keeps its distance from
the earlier lines, and from the earlier probes too unless one of them was kept waiting for its write,
since a probe restarts the interval at the time at which it was due and not when it is completed.

A script lets time pass in whole milliseconds, so under a script whose interval is one of these too a
punctual probe goes out at the very time at which it is due.
-/

namespace Lifeline

open World
open Stage (Turn)

/-! ## Sessions without an interval -/

/-- Without an interval, no probe is sent. -/
structure Silent (s : Stage) (w : World) : Prop where
  silent : w.session.clock.interval = none
  idle : s.due? = none
  probes : ∀ record ∈ w.history, record.isProbing = false

namespace Silent

variable {s t : Stage} {w v : World}

theorem opened (stream : Stream) {options : Options} (filter : Filter) (now : Nat)
    (silent : options.heartbeatInterval = none) :
    Silent .created (World.opened stream options filter now) :=
  ⟨silent, rfl, by simp [World.opened]⟩

theorem turn (isOpen : w.session.transport.closed = false) (turn : Turn s w t v)
    (silent : Silent s w) : Silent t v := by
  obtain ⟨new, sends⟩ := turn.sends isOpen
  have history := turn.stamped.records sends.more
  refine ⟨?_, ?_, fun record member => ?_⟩
  · obtain ⟨-, clock⟩ | ⟨-, clock⟩ := sends.clock <;> rw [clock] <;> exact silent.silent
  · cases turn with
    | sendProbe due => simp [Clock.not_isDue silent.silent] at due
    | probeHeld => exact silent.idle
    | _ => rfl
  · rw [history] at member
    obtain member | member := List.mem_append.mp member
    · exact silent.probes record member
    · obtain ⟨happening, added, rfl⟩ := List.mem_map.mp member
      refine Bool.eq_false_iff.mpr fun probing => ?_
      have asked : happening.outbound? = some .heartbeat := by simpa [Record.isProbing] using probing
      have sending := sends.outbound happening added _ asked
      cases s with
      | sendingProbe => cases silent.idle
      | _ => cases sending

theorem met {occurrence : Occurrence} (meets : w.Meets occurrence v) (silent : Silent w.stage w) :
    Silent w.stage v := by
  cases meets with
  | @queued text =>
    refine ⟨silent.silent, silent.idle, fun record member => ?_⟩
    obtain member | member : record ∈ w.history ∨ record = ⟨w.now, .queued text⟩ := by
      simpa [enqueue, note] using member
    · exact silent.probes record member
    · rw [member]
      rfl
  | stream | refused | closeInput | pass | request =>
    exact ⟨silent.silent, silent.idle, silent.probes⟩

end Silent

/-! ## Probes that are on time -/

/-- A probe goes out a full interval after the last send, at the next whole millisecond. -/
def IsTimely (created interval : Nat) (before : List Record) (probe : Record) : Prop :=
  probe.isProbing = true → lastSend created before + interval ≤ probe.time ∧
    probe.time ≤ nextTick (lastSend created before + interval)

/-- A line that is queued completes no send. -/
theorem lastSend_enqueue (created : Nat) (w : World) (text : String) :
    lastSend created (w.enqueue text).history = lastSend created w.history := by
  have history : (w.enqueue text).history = w.history ++ [⟨w.now, .queued text⟩] := rfl
  rw [history, lastSend_append]
  exact lastSend_eq_self _ (by simp [Record.completed?, Happening.completed?])

/-- Whether the session has just looked whether a probe is due, or just begun. -/
def Stage.isFresh : Stage → Bool
  | .created | .atHead => true
  | _ => false

structure Punctual (created interval : Nat) (s : Stage) (w : World) : Prop where
  clock : w.session.clock = ⟨some interval, lastSend created w.history⟩
  inTime : s.isOver = false → w.now ≤ nextTick (w.session.clock.lastSent + interval)
  fresh : s.isFresh = true → w.now < w.session.clock.lastSent + interval
  wait : ∀ deadline ∈ s.deadline?, deadline = nextTick (w.session.clock.lastSent + interval)
  due : ∀ due ∈ s.due?, due = w.now
  probes : AtEach (IsTimely created interval) w.history

namespace Punctual

variable {created interval : Nat} {s t : Stage} {w v : World} {new : List Happening}

theorem opened (stream : Stream) (options : Options) (filter : Filter) (now : Nat)
    (beating : options.heartbeatInterval = some interval) (positive : 0 < interval) :
    Punctual now interval .created (World.opened stream options filter now) := by
  refine ⟨?_, fun _ => ?_, fun _ => ?_, nofun, nofun, .nil⟩
  · simp only [World.opened, Session.start, beating]
    rfl
  · exact Nat.le_trans (Nat.le_add_right ..) (le_nextTick _)
  · exact Nat.lt_add_of_pos_right positive

/-- A completed send is the latest one, and restarts the interval now. -/
theorem clock_turn (punctual : Punctual created interval s w) (timekept : Timekept s w)
    (sends : Stage.Sends s w v new) (history : v.history = w.history ++ new.map (Record.mk w.now)) :
    v.session.clock = ⟨some interval, lastSend created v.history⟩ ∧
      (v.session.clock = w.session.clock ∨ v.session.clock.lastSent = w.now) := by
  have past := timekept.past
  rw [history, lastSend_append]
  obtain ⟨incomplete, clock⟩ | ⟨completed, clock⟩ := sends.clock
  · refine ⟨?_, .inl clock⟩
    rw [lastSend_eq_self _ (by simpa [Record.completed?] using incomplete), clock, punctual.clock]
  · -- a probe is sent at the very time at which it is due
    have now : s.due?.getD w.now = w.now := by
      cases probing : s.due? with
      | none => rfl
      | some due => exact punctual.due due probing
    rw [punctual.clock] at past
    obtain ⟨happening, member, completed⟩ := completed
    have latest : lastSend (lastSend created w.history) (new.map (Record.mk w.now)) = w.now :=
      lastSend_eq_now past (by simp) ⟨_, List.mem_map_of_mem member, completed⟩
    rw [clock, now, latest, punctual.clock]
    exact ⟨rfl, .inr rfl⟩

/-- What is asked of the stream for a probe is asked when the probe is due. -/
theorem probes_turn (punctual : Punctual created interval s w) (timekept : Timekept s w)
    (sends : Stage.Sends s w v new) :
    AtEach (IsTimely created interval) (w.history ++ new.map (Record.mk w.now)) := by
  refine punctual.probes.append (.map fun before happening after split probing => ?_)
  have asked : happening.outbound? = some .heartbeat := by simpa [Record.isProbing] using probing
  have sending := sends.outbound happening (by simp [split]) _ asked
  -- nothing before it in the same turn completes a send
  have earlier := sends.last before happening after split (by simp [asked])
  rw [lastSend_append, lastSend_eq_self _ (by simpa [Record.completed?] using earlier)]
  cases s with
  | sendingProbe rest due =>
    obtain rfl := punctual.due due rfl
    have beating : w.session.clock.interval = some interval := by rw [punctual.clock]
    have reached := (Clock.isDue_iff beating timekept.past).mp (timekept.due _ rfl).1
    have inTime := punctual.inTime rfl
    rw [punctual.clock] at reached inTime
    exact ⟨reached, inTime⟩
  | _ => cases sending

theorem turn (positive : 0 < interval) (isOpen : w.session.transport.closed = false)
    (turn : Turn s w t v) (timekept : Timekept s w) (punctual : Punctual created interval s w) :
    Punctual created interval t v := by
  obtain ⟨new, sends⟩ := turn.sends isOpen
  have history := turn.stamped.records sends.more
  have now := now_turn turn
  have beating : w.session.clock.interval = some interval := by rw [punctual.clock]
  obtain ⟨clock, moved⟩ := punctual.clock_turn timekept sends history
  refine ⟨clock, fun running => ?_, fun fresh => ?_, fun deadline waiting => ?_,
    fun due probing => ?_, history ▸ punctual.probes_turn timekept sends⟩
  · obtain same | restarted := moved
    · rw [same, now]
      refine punctual.inTime ?_
      cases turn <;> rfl
    · rw [restarted, now]
      exact Nat.le_trans (Nat.le_add_right ..) (le_nextTick _)
  · cases turn with
    | begin => exact punctual.fresh rfl
    | rest early =>
      have late := mt (Clock.isDue_iff beating timekept.past).mpr (by simp [early])
      dsimp only
      omega
    | probeSent =>
      obtain rfl := punctual.due _ rfl
      exact Nat.lt_add_of_pos_right positive
    | _ => cases fresh
  · cases turn with
    | wait =>
      -- no probe is due when the wait begins, so it ends when the next one is
      obtain rfl : w.deadline = deadline := Option.some.inj waiting
      have early := punctual.fresh rfl
      have set : w.deadline = w.session.clock.deadline w.now := rfl
      rw [set, Clock.deadline_eq beating timekept.past]
      dsimp only
      congr 1
      omega
    | takeLine | takeClose | takeNothing => exact punctual.wait _ waiting
    | _ => cases waiting
  · cases turn with
    | sendProbe => exact (Option.some.inj probing).symm
    | probeHeld => exact punctual.due _ probing
    | _ => cases probing

/-- What comes from outside keeps the time of all probes, if the time that passes reaches no further
    than the deadline. -/
theorem met {occurrence : Occurrence} (meets : w.Meets occurrence v)
    (inTime : w.stage.isOver = false → v.now ≤ nextTick (w.session.clock.lastSent + interval))
    (idle : w.now < v.now → w.stage.isFresh = false ∧ w.stage.due? = none)
    (punctual : Punctual created interval w.stage w) : Punctual created interval w.stage v := by
  cases meets with
  | @queued text =>
    refine ⟨?_, punctual.inTime, punctual.fresh, punctual.wait, punctual.due,
      punctual.probes.append (.of_forall fun record member before probing => ?_)⟩
    · rw [lastSend_enqueue]
      exact punctual.clock
    · obtain rfl : record = ⟨w.now, .queued text⟩ := by simpa using member
      cases probing
  | pass _ duration =>
    refine ⟨punctual.clock, inTime, fun fresh => ?_, punctual.wait, fun due probing => ?_,
      punctual.probes⟩
    · have still : ¬w.now < w.now + duration := fun passed => by simp [(idle passed).1] at fresh
      have early := punctual.fresh fresh
      dsimp only
      omega
    · have still : ¬w.now < w.now + duration := fun passed => by simp [(idle passed).2] at probing
      have now := punctual.due due probing
      dsimp only
      omega
  | stream | refused | closeInput | request =>
    exact ⟨punctual.clock, punctual.inTime, punctual.fresh, punctual.wait, punctual.due,
      punctual.probes⟩

end Punctual

/-! ## The cadence -/

namespace World

/-- At every moment at which time passes, the session is suspended in its wait or has ended. -/
def PassesIdly (w : World) (occurrence : Occurrence) : Prop :=
  ∀ passed < occurrence.duration,
    w.phase.isOver = true ∨ ({ w with now := w.now + passed } : World).IsSuspended

/-- Time passes idly up to the deadline of a wait. -/
theorem passesIdly_iff {w : World} {occurrence : Occurrence} :
    w.PassesIdly occurrence ↔ occurrence.duration = 0 ∨ w.phase.isOver = true ∨
      (w.IsSuspended ∧ ∀ deadline ∈ w.stage.deadline?, w.now + occurrence.duration ≤ deadline) := by
  constructor
  · intro idle
    obtain still | passes := Nat.eq_zero_or_pos occurrence.duration
    · exact .inl still
    obtain ended | suspended := idle 0 passes
    · exact .inr (.inl ended)
    -- at the last moment before, the deadline was still to come
    obtain ended | late := idle (occurrence.duration - 1) (by omega)
    · exact .inr (.inl ended)
    refine .inr (.inr ⟨suspended, fun deadline waits => ?_⟩)
    have early := late.lt_deadline (deadline?_stage.mp waits)
    dsimp only at early
    omega
  · rintro (still | ended | ⟨suspended, short⟩) passed early
    · omega
    · exact .inl ended
    · obtain ⟨deadline, waiting⟩ := suspended.2
      have ends := short deadline (deadline?_stage.mpr waiting)
      exact .inr (suspended.later waiting (by omega))

instance (w : World) (occurrence : Occurrence) : Decidable (w.PassesIdly occurrence) :=
  decidable_of_iff' _ passesIdly_iff

end World

namespace Punctual

variable {created interval : Nat} {w : World}

/-- A session that is suspended, now or at another time, waits for the next probe. -/
theorem lt_next (punctual : Punctual created interval w.stage w) {time : Nat}
    (suspended : ({ w with now := time } : World).IsSuspended) :
    time < nextTick (lastSend created w.history + interval) := by
  obtain ⟨deadline, waiting⟩ := suspended.2
  have standing : w.phase = .waiting deadline := waiting
  have set := punctual.wait deadline (deadline?_stage.mpr standing)
  rw [punctual.clock] at set
  exact set ▸ suspended.lt_deadline waiting

theorem after {occurrence : Occurrence} (sane : Sane w.stage w)
    (meets : w.Meets occurrence (w.after occurrence)) (idle : w.PassesIdly occurrence)
    (punctual : Punctual created interval w.stage w) :
    Punctual created interval w.stage (w.after occurrence) := by
  have now := now_after sane occurrence
  obtain still | ended | ⟨suspended, short⟩ := passesIdly_iff.mp idle
  · refine punctual.met meets (fun running => ?_) fun passed => by omega
    rw [now, still]
    exact punctual.inTime running
  · refine punctual.met meets (fun running => ?_) fun _ => ?_
    · rw [stage_isOver, ended] at running
      cases running
    · unfold stage
      cases standing : w.phase <;> simp_all [Phase.isOver, Phase.stage, Stage.isFresh, Stage.due?]
  · obtain ⟨deadline, waiting⟩ := suspended.2
    have waits := deadline?_stage.mpr waiting
    refine punctual.met meets (fun _ => ?_) fun _ => ?_
    · rw [now, ← punctual.wait deadline waits]
      exact short deadline waits
    · rw [stage, waiting]
      exact ⟨rfl, rfl⟩

/-- Probes go out in time in every course over which time passes idly. -/
theorem follow {stream : Stream} {options : Options} {filter : Filter} {course : List Occurrence}
    (beating : options.heartbeatInterval = some interval) (positive : 0 < interval)
    (idle : AtEach (fun before occurrence =>
      ((World.opened stream options filter created).follow before).PassesIdly occurrence) course) :
    Punctual created interval ((World.opened stream options filter created).follow course).stage
      ((World.opened stream options filter created).follow course) := by
  refine (World.follow_keeps_while (I := fun s w => Timekept s w ∧ Punctual created interval s w)
    ?_ ?_ (sane_opened stream options filter created)
    ⟨.opened stream options filter created, .opened stream options filter created beating positive⟩
    idle).2
  · rintro s t w v isOpen turn ⟨timekept, punctual⟩
    exact ⟨timekept.turn isOpen turn, punctual.turn positive isOpen turn timekept⟩
  · rintro w occurrence sane meets idle ⟨timekept, punctual⟩
    exact ⟨timekept.met meets, punctual.after sane meets idle⟩

end Punctual

/-- The time and the times of all records are whole milliseconds. -/
def World.IsWhole (w : World) : Prop :=
  millisecond ∣ w.now ∧ ∀ record ∈ w.history, millisecond ∣ record.time

theorem World.isWhole_opened (stream : Stream) (options : Options) (filter : Filter) {created : Nat}
    (whole : millisecond ∣ created) : (opened stream options filter created).IsWhole :=
  ⟨whole, List.forall_mem_nil _⟩

theorem World.Stamped.isWhole {w v : World} (stamped : Stamped w v) (whole : w.IsWhole) :
    v.IsWhole := by
  obtain ⟨now, new, history⟩ := stamped
  refine ⟨now ▸ whole.1, fun record member => ?_⟩
  rw [history] at member
  obtain member | member := List.mem_append.mp member
  · exact whole.2 record member
  · obtain ⟨happening, -, rfl⟩ := List.mem_map.mp member
    exact whole.1

theorem World.IsWhole.met {w : World} {occurrence : Occurrence} (sane : Sane w.stage w)
    (meets : w.Meets occurrence (w.after occurrence)) (duration : millisecond ∣ occurrence.duration)
    (whole : w.IsWhole) : (w.after occurrence).IsWhole := by
  have now : millisecond ∣ (w.after occurrence).now := by
    rw [now_after sane]
    exact Nat.dvd_add whole.1 duration
  refine ⟨now, ?_⟩
  generalize w.after occurrence = v at meets now
  cases meets with
  | @queued text => exact (Stamped.isWhole (stamped_note w [.queued text]) whole).2
  | _ => exact whole.2

theorem World.IsWhole.follow {w : World} (sane : Sane w.stage w) (whole : w.IsWhole)
    {course : List Occurrence} (durations : ∀ occurrence ∈ course, millisecond ∣ occurrence.duration) :
    (w.follow course).IsWhole :=
  World.follow_keeps_while (I := fun _ w => w.IsWhole)
    (fun _ turn whole => turn.stamped.isWhole whole)
    (fun sane meets duration whole => whole.met sane meets duration)
    sane whole (.of_forall fun occurrence member _ => durations occurrence member)

theorem dvd_lastSend {created : Nat} {records : List Record} (whole : millisecond ∣ created)
    (times : ∀ record ∈ records, millisecond ∣ record.time) :
    millisecond ∣ lastSend created records := by
  induction records generalizing created with
  | nil => exact whole
  | cons record records inductionHypothesis =>
    refine inductionHypothesis ?_ fun other member => times other (by simp [member])
    dsimp only
    split
    · rw [Nat.max_def]
      split
      · exact times record (by simp)
      · exact whole
    · exact whole

namespace World

/-- A session that has no interval sends no probe.  If one has, and time passes only while it is
    suspended in its wait or has ended, each probe goes out a full interval after the latest completed
    send or the creation, at the next whole millisecond, and while the session is suspended that
    time is still to come.  With all times in whole milliseconds it is the very time. -/
theorem follow_cadence (stream : Stream) (options : Options) (filter : Filter) (created : Nat)
    (course : List Occurrence) :
    let opened := World.opened stream options filter created
    let w := opened.follow course
    (options.heartbeatInterval = none → ∀ record ∈ w.history, record.isProbing = false) ∧
    ∀ interval, options.heartbeatInterval = some interval → 0 < interval →
      AtEach (fun before occurrence => (opened.follow before).PassesIdly occurrence) course →
      AtEach (IsTimely created interval) w.history ∧
      (∀ time, ({ w with now := time } : World).IsSuspended →
        time < nextTick (lastSend created w.history + interval)) ∧
      (millisecond ∣ created → millisecond ∣ interval →
        (∀ occurrence ∈ course, millisecond ∣ occurrence.duration) →
        AtEach (fun before probe => probe.isProbing = true →
          probe.time = lastSend created before + interval) w.history ∧
        ∀ time, ({ w with now := time } : World).IsSuspended →
          time < lastSend created w.history + interval) := by
  intro opened w
  have sane := sane_opened stream options filter created
  refine ⟨fun silent => ?_, fun interval beating positive idle => ?_⟩
  · exact (World.follow_keeps Silent.turn Silent.met sane (.opened stream filter created silent)
      course).probes
  · have punctual : Punctual created interval w.stage w := .follow beating positive idle
    refine ⟨punctual.probes, fun _ => punctual.lt_next,
      fun wholeStart wholeInterval durations => ?_⟩
    have whole : w.IsWhole :=
      .follow sane (isWhole_opened stream options filter wholeStart) durations
    -- the times of all sends are ticks, and so is the time of the next probe
    have tick {records : List Record} (times : ∀ record ∈ records, millisecond ∣ record.time) :
        nextTick (lastSend created records + interval) = lastSend created records + interval :=
      nextTick_eq_self (Nat.dvd_add (dvd_lastSend wholeStart times) wholeInterval)
    refine ⟨fun before probe after split probing => ?_, fun time suspended => ?_⟩
    · obtain ⟨reached, inTime⟩ := punctual.probes before probe after split probing
      rw [tick fun record member => whole.2 record (by rw [split]; simp [member])] at inTime
      omega
    · rw [← tick whole.2]
      exact punctual.lt_next suspended

end World

namespace Script

/-- Under a script, a session that has no interval sends no probe.  If it has one, of whole
    milliseconds, and time passes only while it is suspended in its wait or has ended, each probe goes
    out exactly a full interval after the latest completed send or the creation, and at every moment at
    which the session is suspended less than an interval has passed since then. -/
theorem keeps_cadence (script : Script) (options : Options) (filter : Filter)
    {course : List Occurrence} (reached : script.Reaches options filter course) :
    let opened := script.opened options filter
    let w := opened.follow course
    (options.heartbeatInterval = none → ∀ record ∈ w.history, record.isProbing = false) ∧
    ∀ interval, options.heartbeatInterval = some interval → 0 < interval → millisecond ∣ interval →
      AtEach (fun before occurrence => (opened.follow before).PassesIdly occurrence) course →
      AtEach (fun before probe => probe.isProbing = true →
        probe.time = lastSend 0 before + interval) w.history ∧
      ∀ passed, ({ w with now := w.now + passed } : World).IsSuspended →
        w.now + passed < lastSend 0 w.history + interval := by
  intro opened w
  obtain ⟨silent, cadence⟩ := World.follow_cadence script.stream options filter 0 course
  refine ⟨silent, fun interval beating positive whole idle => ?_⟩
  obtain ⟨-, -, inTicks⟩ := cadence interval beating positive idle
  obtain ⟨probes, next⟩ := inTicks (Nat.dvd_zero _) whole reached.dvd_duration
  exact ⟨probes, fun _ => next _⟩

/-- A line after the first millisecond puts off the probe from the second one to the third. -/
theorem keeps_cadence_put_off :
    let options : Options := ⟨some (2 * millisecond), [0], 1, "quit"⟩
    let script : Script :=
      { steps := [.single (.sleep 1), .single (.line "hi"), .single (.sleep 2)] }
    let w := script.performed options (.sentinel [0])
    AtEach (fun before probe => probe.isProbing = true →
      probe.time = lastSend 0 before + 2 * millisecond) w.history ∧
    (w.history.filter Record.isProbing).map Record.time = [3 * millisecond, 3 * millisecond] ∧
    w.now < lastSend 0 w.history + 2 * millisecond := by
  intro options script w
  have rests : (Run.next^[9] (script.run options (.sentinel [0]))).world.advance? = none := by
    decide
  have same : w = (script.opened options (.sentinel [0])).follow
      (script.course options (.sentinel [0]) 9) :=
    performed_eq_follow (by decide) ⟨rests, by decide⟩
  obtain ⟨-, cadence⟩ := keeps_cadence script options (.sentinel [0]) ⟨9, List.prefix_refl _⟩
  obtain ⟨probes, next⟩ := cadence (2 * millisecond) rfl (by decide) (by decide) (by decide)
  rw [same]
  exact ⟨probes, by decide, next 0 (by decide)⟩

end Script

/-! ## The distance between sends -/

namespace Record

/-- Whether a probe keeps a full interval from this: a completed line, or a completed probe if each
    probe is prompt. -/
def Restarts (prompt : Prop) (record : Record) : Prop :=
  record.completed? = some .send ∨ (prompt ∧ record.completed?.isSome = true)

end Record

/-- A probe goes out no earlier than an interval after each send that restarted the interval. -/
def IsSpaced (prompt : Prop) (interval : Nat) (before : List Record) (probe : Record) : Prop :=
  probe.isProbing = true →
    ∀ earlier ∈ before, earlier.Restarts prompt → earlier.time + interval ≤ probe.time

/-- What keeps probes apart from the sends before them.  A probe is prompt if no time passes while it
    is being sent. -/
structure Spaced (prompt : Prop) (interval : Nat) (s : Stage) (w : World) : Prop where
  beating : w.session.clock.interval = some interval
  recorded : ∀ record ∈ w.history, record.Restarts prompt → record.time ≤ w.session.clock.lastSent
  due : prompt → ∀ due ∈ s.due?, due = w.now
  probes : AtEach (IsSpaced prompt interval) w.history

namespace Spaced

variable {prompt : Prop} {interval : Nat} {s t : Stage} {w v : World} {new : List Happening}

theorem opened (stream : Stream) {options : Options} (filter : Filter) (now : Nat)
    (beating : options.heartbeatInterval = some interval) :
    Spaced prompt interval .created (World.opened stream options filter now) :=
  ⟨beating, nofun, nofun, .nil⟩

theorem recorded_turn (spaced : Spaced prompt interval s w) (timekept : Timekept s w)
    (sends : Stage.Sends s w v new) (record : Record)
    (member : record ∈ w.history ++ new.map (Record.mk w.now)) (restarts : record.Restarts prompt) :
    record.time ≤ v.session.clock.lastSent := by
  have past := timekept.past
  obtain ⟨incomplete, clock⟩ | ⟨-, clock⟩ := sends.clock <;> rw [clock]
  · obtain member | member := List.mem_append.mp member
    · exact spaced.recorded record member restarts
    · obtain ⟨happening, added, rfl⟩ := List.mem_map.mp member
      simp [Record.Restarts, Record.completed?, incomplete happening added] at restarts
  · -- the clock is set forward: to now by a line, to the time at which it was due by a probe
    have restarted : (w.session.clock.recordSend (s.due?.getD w.now)).lastSent =
        s.due?.getD w.now := rfl
    rw [restarted]
    cases s with
    | sendingProbe rest due =>
      obtain ⟨-, later, -⟩ := timekept.due due rfl
      obtain member | member := List.mem_append.mp member
      · exact Nat.le_trans (spaced.recorded record member restarts) later
      · obtain ⟨happening, added, rfl⟩ := List.mem_map.mp member
        obtain line | ⟨isPrompt, -⟩ := restarts
        · cases sends.outbound happening added _ (Happening.outbound?_of_completed? line)
        · exact Nat.le_of_eq (spaced.due isPrompt due rfl).symm
    | _ =>
      obtain member | member := List.mem_append.mp member
      · exact Nat.le_trans (spaced.recorded record member restarts) past
      · obtain ⟨happening, -, rfl⟩ := List.mem_map.mp member
        exact Nat.le_refl _

theorem probes_turn (spaced : Spaced prompt interval s w) (timekept : Timekept s w)
    (sends : Stage.Sends s w v new) :
    AtEach (IsSpaced prompt interval) (w.history ++ new.map (Record.mk w.now)) := by
  refine spaced.probes.append
    (.map fun before happening after split probing earlier member restarts => ?_)
  have asked : happening.outbound? = some .heartbeat := by simpa [Record.isProbing] using probing
  have sending := sends.outbound happening (by simp [split]) _ asked
  obtain member | member := List.mem_append.mp member
  · cases s with
    | sendingProbe rest due =>
      -- a probe is sent a full interval after the time to which the clock was set, or later
      obtain ⟨isDue, past, reached⟩ := timekept.due due rfl
      have late := (Clock.isDue_iff spaced.beating past).mp isDue
      have recorded := spaced.recorded earlier member restarts
      dsimp only
      omega
    | _ => cases sending
  · -- nothing before it in the same turn completes a send
    obtain ⟨previous, source, rfl⟩ := List.mem_map.mp member
    have incomplete := sends.last before happening after split (by simp [asked]) previous source
    simp [Record.Restarts, Record.completed?, incomplete] at restarts

theorem turn (isOpen : w.session.transport.closed = false) (turn : Turn s w t v)
    (timekept : Timekept s w) (spaced : Spaced prompt interval s w) :
    Spaced prompt interval t v := by
  obtain ⟨new, sends⟩ := turn.sends isOpen
  have history := turn.stamped.records sends.more
  refine ⟨?_, ?_, fun isPrompt due probing => ?_, history ▸ spaced.probes_turn timekept sends⟩
  · obtain ⟨-, clock⟩ | ⟨-, clock⟩ := sends.clock <;> rw [clock] <;> exact spaced.beating
  · rw [history]
    exact spaced.recorded_turn timekept sends
  · cases turn with
    | sendProbe => exact (Option.some.inj probing).symm
    | probeHeld => exact spaced.due isPrompt _ probing
    | _ => cases probing

theorem after {occurrence : Occurrence} (sane : Sane w.stage w)
    (meets : w.Meets occurrence (w.after occurrence))
    (idle : prompt → 0 < occurrence.duration → w.stage.due? = none)
    (spaced : Spaced prompt interval w.stage w) :
    Spaced prompt interval w.stage (w.after occurrence) := by
  have now := now_after sane occurrence
  generalize w.after occurrence = v at meets now
  have due : prompt → ∀ due ∈ w.stage.due?, due = v.now := by
    intro isPrompt due probing
    obtain still | passed := Nat.eq_zero_or_pos occurrence.duration
    · rw [now, still]
      exact spaced.due isPrompt due probing
    · simp [idle isPrompt passed] at probing
  cases meets with
  | @queued text =>
    refine ⟨spaced.beating, fun record member restarts => ?_, due,
      spaced.probes.append (.of_forall fun record member before probing => ?_)⟩
    · obtain member | rfl : record ∈ w.history ∨ record = ⟨w.now, .queued text⟩ := by
        simpa [enqueue, note] using member
      · exact spaced.recorded record member restarts
      · simp [Record.Restarts, Record.completed?, Happening.completed?] at restarts
    · obtain rfl : record = ⟨w.now, .queued text⟩ := by simpa using member
      cases probing
  | stream | refused | closeInput | pass | request =>
    exact ⟨spaced.beating, spaced.recorded, due, spaced.probes⟩

/-- Probes keep their distance in every course in which no time passes while a prompt probe is being
    sent. -/
theorem follow {stream : Stream} {options : Options} {filter : Filter} {created : Nat}
    {course : List Occurrence} (beating : options.heartbeatInterval = some interval)
    (idle : AtEach (fun before occurrence => prompt → 0 < occurrence.duration →
      ((World.opened stream options filter created).follow before).stage.due? = none) course) :
    Spaced prompt interval ((World.opened stream options filter created).follow course).stage
      ((World.opened stream options filter created).follow course) := by
  refine (World.follow_keeps_while (I := fun s w => Timekept s w ∧ Spaced prompt interval s w)
    (P := fun w occurrence => prompt → 0 < occurrence.duration → w.stage.due? = none)
    ?_ ?_ (sane_opened stream options filter created)
    ⟨.opened stream options filter created, .opened stream filter created beating⟩ idle).2
  · rintro s t w v isOpen turn ⟨timekept, spaced⟩
    exact ⟨timekept.turn isOpen turn, spaced.turn isOpen turn timekept⟩
  · rintro w occurrence sane meets idle ⟨timekept, spaced⟩
    exact ⟨timekept.met meets, spaced.after sane meets idle⟩

end Spaced

namespace World

/-- Whatever is kept waiting and for how long, a probe goes out no earlier than a full interval after
    each line that was completed before it.  It keeps the same distance from each probe completed
    before it if no time passes while a probe is being sent. -/
theorem follow_spacing (stream : Stream) (options : Options) (filter : Filter) (created : Nat)
    (course : List Occurrence) {interval : Nat}
    (beating : options.heartbeatInterval = some interval) :
    let opened := World.opened stream options filter created
    let w := opened.follow course
    AtEach (fun before probe => probe.isProbing = true → ∀ line ∈ before,
      line.completed? = some .send → line.time + interval ≤ probe.time) w.history ∧
    (AtEach (fun before occurrence => 0 < occurrence.duration →
        (opened.follow before).stage.due? = none) course →
      AtEach (fun before probe => probe.isProbing = true → ∀ earlier ∈ before,
        earlier.completed?.isSome = true → earlier.time + interval ≤ probe.time) w.history) := by
  intro opened w
  refine ⟨fun before probe after split probing line member sent => ?_,
    fun idle before probe after split probing earlier member sent => ?_⟩
  · have spaced : Spaced False interval w.stage w :=
      .follow beating (.of_forall fun _ _ _ => False.elim)
    exact spaced.probes before probe after split probing line member (.inl sent)
  · have spaced : Spaced True interval w.stage w :=
      .follow beating fun before occurrence after split _ => idle before occurrence after split
    exact spaced.probes before probe after split probing earlier member (.inr ⟨trivial, sent⟩)

/-- Two probes of a session that is never kept waiting. -/
theorem follow_spacing_prompt :
    let w := (World.opened {} ⟨some second, [0], 1, "quit"⟩ (.sentinel [0]) 0).follow
      [.begin, .move, .elapse second, .move, .move, .elapse second, .move]
    AtEach (fun before probe => probe.isProbing = true → ∀ earlier ∈ before,
      earlier.completed?.isSome = true → earlier.time + second ≤ probe.time) w.history :=
  (follow_spacing {} ⟨some second, [0], 1, "quit"⟩ (.sentinel [0]) 0 _ rfl).2 (by decide)

/-- A probe that was due after a second and kept waiting for six tenths of another one is followed by
    the next probe four tenths of a second after it was completed. -/
theorem follow_spacing_held :
    let w := (World.opened {} ⟨some second, [0], 1, "quit"⟩ (.sentinel [0]) 0).follow
      [.begin, .move, .act (.stream .block), .elapse second, .move,
        .elapse (600 * millisecond), .act (.stream .unblock), .move, .move,
        .elapse (400 * millisecond), .move]
    ¬AtEach (fun before probe => probe.isProbing = true → ∀ earlier ∈ before,
      earlier.completed?.isSome = true → earlier.time + second ≤ probe.time) w.history := by
  decide

end World

end Lifeline
