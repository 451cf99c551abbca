import Lifeline.Proofs.Session.Cadence
import Lifeline.Proofs.Session.Interrupts
import Mathlib.Data.List.Induction

/-! # SIGTERM and SIGHUP

A signal wakes nothing.  It raises a flag that the session reads at the head of its loop, so a session
that waits when the signal comes waits on until something is ready or its deadline has passed, handles
that one cycle and ends.  How late this can be is told by the deadline: it is the time of the last
send and one interval more, or a second after the wait began if there is no interval.
-/

namespace Lifeline

open World
open Stage (Turn)

namespace World

variable {w v : World} {deadline : Nat}

/-! ## How a wait begins -/

theorem deadline?_afterProbe (due : Nat) (answer : Verdict × World) :
    (afterProbe due answer).stage.deadline? = none := by
  obtain ⟨verdict, w⟩ := answer
  cases verdict <;> rfl

theorem deadline?_afterStream (w : World) : w.afterStream.stage.deadline? = none :=
  deadline?_afterProbe ..

theorem deadline?_afterOperator (w : World) (read : Option ReadOutcome) :
    (w.afterOperator read).stage.deadline? = none := by
  unfold afterOperator
  split
  · exact deadline?_afterStream w
  · split
    · rfl
    · exact deadline?_afterStream _

theorem deadline?_afterLine (text : String) (read : Option ReadOutcome)
    (answer : Verdict × World) : (afterLine text read answer).stage.deadline? = none := by
  obtain ⟨verdict, w⟩ := answer
  cases verdict with
  | goOn => exact deadline?_afterOperator w read
  | finish | suspend => rfl

theorem deadline?_dispatch (w : World) (ready : Readiness) :
    (w.dispatch ready).stage.deadline? = none := by
  unfold dispatch
  split
  · rfl
  · split
    · exact deadline?_afterOperator ..
    · exact deadline?_afterLine ..
    · exact deadline?_afterLine ..

/-- A wait goes on, or it begins with a move from the head of the loop. -/
theorem waiting_after {occurrence : Occurrence}
    (waiting : (w.after occurrence).phase = .waiting deadline) :
    w.phase = .waiting deadline ∨
      (occurrence = .move ∧ w.phase = .atHead ∧ deadline = w.deadline) := by
  cases occurrence with
  | act act => exact .inl ((w.phase_apply act).symm.trans waiting)
  | elapse => exact .inl waiting
  | begin =>
    simp only [World.after, World.begin] at waiting
    split at waiting
    · cases waiting
    · exact .inl waiting
  | move =>
    have unwaiting {x : World} (running : x.stage.deadline? = none) : x.phase ≠ .waiting deadline :=
      fun waiting => by simp [deadline?_stage.mpr waiting] at running
    cases advanced : w.advance? with
    | none => exact .inl (by simpa [World.after, advanced] using waiting)
    | some v =>
      have moved : v.phase = .waiting deadline := by simpa [World.after, advanced] using waiting
      -- of all moves, only the one from the head ends in a wait
      unfold advance? at advanced
      split at advanced <;> rename_i standing
      · cases advanced
      · cases advanced
      · split at advanced <;> cases advanced
        · cases moved
        · exact .inr ⟨rfl, standing, (Phase.waiting.inj moved).symm⟩
      · obtain ⟨⟨ready, x⟩, -, rfl⟩ := Option.map_eq_some_iff.mp advanced
        exact absurd moved (unwaiting (deadline?_dispatch x ready))
      · split at advanced <;> cases advanced
        exact absurd moved (unwaiting (deadline?_afterLine ..))
      · split at advanced <;> cases advanced
        exact absurd moved (unwaiting (deadline?_afterProbe ..))

/-- A wait began with the move behind the front of a course and has gone on since. -/
structure Waits (start : World) (front back : List Occurrence) (deadline : Nat) : Prop where
  head : (start.follow front).phase = .atHead
  set : deadline = (start.follow front).deadline
  lasts : ∀ between, between <+: back →
    (start.follow (front ++ .move :: between)).phase = .waiting deadline

theorem Waits.begun {start : World} {front : List Occurrence} {deadline : Nat}
    (head : (start.follow front).phase = .atHead) (set : deadline = (start.follow front).deadline)
    (waiting : (start.follow (front ++ [.move])).phase = .waiting deadline) :
    start.Waits front [] deadline := by
  refine ⟨head, set, fun between short => ?_⟩
  rw [List.prefix_nil.mp short]
  exact waiting

theorem Waits.longer {start : World} {front back : List Occurrence} {deadline : Nat}
    {occurrence : Occurrence} (waits : start.Waits front back deadline)
    (waiting : (start.follow (front ++ .move :: (back ++ [occurrence]))).phase = .waiting deadline) :
    start.Waits front (back ++ [occurrence]) deadline := by
  refine ⟨waits.head, waits.set, fun between short => ?_⟩
  obtain whole | shorter := List.prefix_concat_iff.mp short
  · exact whole ▸ waiting
  · exact waits.lasts between shorter

/-- Every wait has a beginning. -/
theorem exists_waits (start : World) (fresh : ∀ deadline, start.phase ≠ .waiting deadline)
    {course : List Occurrence} (waiting : (start.follow course).phase = .waiting deadline) :
    ∃ front back, course = front ++ .move :: back ∧ start.Waits front back deadline := by
  -- from the end of the course, since the wait is the last one
  induction course using List.reverseRecOn with
  | nil => exact absurd waiting (fresh deadline)
  | append_singleton course occurrence inductionHypothesis =>
    have last : ((start.follow course).after occurrence).phase = .waiting deadline := by
      rw [follow_append] at waiting
      exact waiting
    obtain still | ⟨rfl, head, set⟩ := waiting_after last
    -- the same wait, one occurrence longer, or one that this occurrence begins
    · obtain ⟨front, back, rfl, waits⟩ := inductionHypothesis still
      have split : front ++ .move :: back ++ [occurrence] =
          front ++ .move :: (back ++ [occurrence]) := by simp
      exact ⟨front, back ++ [occurrence], split, waits.longer (split ▸ waiting)⟩
    · exact ⟨course, [], rfl, .begun head set waiting⟩

end World

/-! ## The deadline and the last send -/

/-- The clock was not set to a later time than that of the last send. -/
structure Reckoned (created : Nat) (s : Stage) (w : World) : Prop where
  clock : w.session.clock.lastSent ≤ lastSend created w.history
  reached : lastSend created w.history ≤ w.now

namespace Reckoned

variable {created : Nat} {s t : Stage} {w v : World}

theorem opened (stream : Stream) (options : Options) (filter : Filter) (created : Nat) :
    Reckoned created .created (World.opened stream options filter created) :=
  ⟨Nat.le_refl _, Nat.le_refl _⟩

theorem turn (isOpen : w.session.transport.closed = false) (turn : Turn s w t v)
    (timekept : Timekept s w) (reckoned : Reckoned created s w) : Reckoned created t v := by
  obtain ⟨clock, reached⟩ := reckoned
  obtain ⟨new, sends⟩ := turn.sends isOpen
  have history := turn.stamped.records sends.more
  have now := now_turn turn
  have append : lastSend created v.history =
      lastSend (lastSend created w.history) (new.map (Record.mk w.now)) := by
    rw [history, lastSend_append]
  obtain ⟨incomplete, same⟩ | ⟨⟨happening, member, completed⟩, set⟩ := sends.clock
  · have latest : lastSend created v.history = lastSend created w.history :=
      append.trans (lastSend_eq_self _ (by simpa [Record.completed?] using incomplete))
    exact ⟨by rwa [latest, same], by rwa [latest, now]⟩
  -- a send that is completed now is the latest, and the clock is set to no later time
  · have latest : lastSend created v.history = w.now :=
      append.trans (lastSend_eq_now reached (by simp)
        ⟨_, List.mem_map_of_mem member, completed⟩)
    -- a probe sets the clock to the time at which it was due
    have past : s.due?.getD w.now ≤ w.now := by
      cases probing : s.due? with
      | none => exact Nat.le_refl _
      | some due => exact (timekept.due due probing).2.2
    refine ⟨?_, Nat.le_of_eq (latest.trans now.symm)⟩
    rw [latest, set]
    exact past

theorem met {occurrence : Occurrence} (meets : w.Meets occurrence v)
    (reckoned : Reckoned created w.stage w) : Reckoned created w.stage v := by
  obtain ⟨clock, reached⟩ := reckoned
  cases meets with
  | @queued text =>
    have unsent := lastSend_enqueue created w text
    exact ⟨unsent ▸ clock, unsent ▸ reached⟩
  | pass => exact ⟨clock, Nat.le_trans reached (Nat.le_add_right ..)⟩
  | stream | refused | closeInput | request => exact ⟨clock, reached⟩

theorem follow (stream : Stream) (options : Options) (filter : Filter) (created : Nat)
    (course : List Occurrence) :
    let w := (World.opened stream options filter created).follow course
    Timekept w.stage w ∧ Reckoned created w.stage w := by
  intro w
  refine follow_keeps (I := fun s w => Timekept s w ∧ Reckoned created s w) ?_ ?_
    (sane_opened stream options filter created)
    ⟨.opened stream options filter created, .opened stream options filter created⟩ course
  · rintro s t w v isOpen turn ⟨timekept, reckoned⟩
    exact ⟨timekept.turn isOpen turn, reckoned.turn isOpen turn timekept⟩
  · rintro w v occurrence meets ⟨timekept, reckoned⟩
    exact ⟨timekept.met meets, reckoned.met meets⟩

/-- With all times in whole milliseconds, a session that is suspended waits no longer than a full
    interval from the last send. -/
theorem deadline_le {interval deadline : Nat} (reckoned : Reckoned created w.stage w)
    (timekept : Timekept w.stage w) (beating : w.session.clock.interval = some interval)
    (waiting : w.phase = .waiting deadline) (suspended : w.IsSuspended)
    (now : millisecond ∣ w.now) (next : millisecond ∣ lastSend created w.history + interval) :
    deadline ≤ lastSend created w.history + interval := by
  obtain ⟨begun, past, reached, set⟩ := timekept.wait deadline (deadline?_stage.mpr waiting)
  have early := suspended.lt_deadline waiting
  have clock := reckoned.clock
  rw [Clock.deadline_eq beating past] at set
  -- a probe that was due when the wait began would have ended it by now
  have waited : w.now < max begun (w.session.clock.lastSent + interval) := by
    refine Nat.lt_of_not_le fun passed => ?_
    have ended := (nextTick_le_iff now).mpr passed
    omega
  rw [set, nextTick_le_iff next]
  omega

end Reckoned

namespace World

theorem deadline_of_silent {w : World} (silent : w.session.clock.interval = none)
    (now : millisecond ∣ w.now) : w.deadline = w.now + second := by
  have tick : millisecond ∣ w.now + idlePoll := Nat.dvd_add now ⟨1000, rfl⟩
  simp only [deadline, Clock.remaining, silent, Option.map_none, Option.getD_none]
  exact nextTick_eq_self tick

/-- The deadline of the wait in which a course ends is at most a full interval after the last send or
    the creation, and without an interval it is a second after the wait began. -/
structure BoundsWait (start : World) (course : List Occurrence) (deadline : Nat) : Prop where
  beating : ∀ interval, start.session.clock.interval = some interval → millisecond ∣ interval →
    deadline ≤ lastSend start.now (start.follow course).history + interval
  silent : start.session.clock.interval = none → ∃ front back, course = front ++ .move :: back ∧
    start.Waits front back deadline ∧ deadline = (start.follow front).now + second

/-- In whole milliseconds every wait is bounded. -/
theorem boundsWait_opened (stream : Stream) (options : Options) (filter : Filter) {created : Nat}
    {course : List Occurrence} {deadline : Nat} (wholeStart : millisecond ∣ created)
    (durations : ∀ occurrence ∈ course, millisecond ∣ occurrence.duration) :
    let start := opened stream options filter created
    (start.follow course).phase = .waiting deadline → (start.follow course).IsSuspended →
      start.BoundsWait course deadline := by
  intro start waiting suspended
  have opening : Sane start.stage start := sane_opened stream options filter created
  have wholeAt {front : List Occurrence}
      (durations : ∀ occurrence ∈ front, millisecond ∣ occurrence.duration) :
      (start.follow front).IsWhole :=
    .follow opening (isWhole_opened stream options filter wholeStart) durations
  refine ⟨fun interval beating wholeBeat => ?_, fun silent => ?_⟩
  · obtain ⟨timekept, reckoned⟩ := Reckoned.follow stream options filter created course
    have whole := wholeAt durations
    exact reckoned.deadline_le timekept ((interval_follow opening course).trans beating) waiting
      suspended whole.1 (Nat.dvd_add (dvd_lastSend wholeStart whole.2) wholeBeat)
  · obtain ⟨front, back, split, waits⟩ := exists_waits start (fun _ fresh => by cases fresh) waiting
    have whole : (start.follow front).IsWhole :=
      wholeAt fun occurrence member => durations occurrence (by simp [split, member])
    refine ⟨front, back, split, waits, waits.set.trans ?_⟩
    exact deadline_of_silent ((interval_follow opening front).trans silent) whole.1

end World

/-! ## The last cycle -/

theorem Stage.Turn.running {s t : Stage} {w v : World} (turn : Turn s w t v) : s.isOver = false := by
  cases turn <;> rfl

/-- A session that waits no longer than to a deadline runs no longer either, and leaves no record
    behind it. -/
structure InTime (deadline : Nat) (earlier : List Record) (s : Stage) (w : World) : Prop where
  running : s.isOver = false → w.now ≤ deadline
  records : ∃ new, w.history = earlier ++ new ∧ ∀ record ∈ new, record.time ≤ deadline

namespace InTime

variable {deadline : Nat} {earlier : List Record} {s t : Stage} {w v : World}

theorem extend (inTime : InTime deadline earlier s w) (running : s.isOver = false)
    {happenings : List Happening} (history : v.history = w.history ++ happenings.map (Record.mk w.now)) :
    ∃ new, v.history = earlier ++ new ∧ ∀ record ∈ new, record.time ≤ deadline := by
  obtain ⟨new, old, times⟩ := inTime.records
  refine ⟨new ++ happenings.map (Record.mk w.now), by rw [history, old, List.append_assoc], ?_⟩
  intro record member
  obtain member | member := List.mem_append.mp member
  · exact times record member
  · obtain ⟨happening, -, rfl⟩ := List.mem_map.mp member
    exact inTime.running running

theorem turn (turn : Turn s w t v) (inTime : InTime deadline earlier s w) :
    InTime deadline earlier t v := by
  obtain ⟨now, new, history⟩ := turn.stamped
  exact ⟨fun _ => now ▸ inTime.running turn.running, inTime.extend turn.running history⟩

/-- The session is suspended at every moment at which time passes, so its deadline is still to come. -/
theorem after {occurrence : Occurrence} (sane : Sane w.stage w)
    (meets : w.Meets occurrence (w.after occurrence)) (idle : w.PassesIdly occurrence)
    (waits : ∀ next, w.phase = .waiting next → next = deadline)
    (inTime : InTime deadline earlier w.stage w) :
    InTime deadline earlier w.stage (w.after occurrence) := by
  refine ⟨fun running => ?_, ?_⟩
  · rw [now_after sane]
    obtain still | ended | ⟨suspended, short⟩ := passesIdly_iff.mp idle
    · rw [still]
      exact inTime.running running
    · rw [stage_isOver, ended] at running
      cases running
    · obtain ⟨next, waiting⟩ := suspended.2
      exact waits next waiting ▸ short next (deadline?_stage.mpr waiting)
  · generalize w.after occurrence = v at meets
    cases meets with
    | queued running => exact inTime.extend (w.stage_isOver.trans running) rfl
    | stream | refused | closeInput | pass | request => exact inTime.records

end InTime

namespace LastCycle

variable {w : World} {deadline : Nat}

/-- A session that was asked to stop while it waited ends by its deadline, if time passes only while
    it waits. -/
theorem follow_inTime (sane : Sane w.stage w) (requested : w.stop.requested = true)
    (waiting : w.phase = .waiting deadline) (early : w.now ≤ deadline) {course : List Occurrence}
    (idle : AtEach (fun before occurrence => (w.follow before).PassesIdly occurrence) course) :
    InTime deadline w.history (w.follow course).stage (w.follow course) := by
  refine (follow_keeps_while (I := fun s v => LastCycle w s v ∧ InTime deadline w.history s v)
    (P := PassesIdly) ?_ ?_ sane
    ⟨.refl requested, fun _ => early, [], (List.append_nil _).symm, by simp⟩ idle).2
  · rintro s t v x isOpen turn ⟨last, inTime⟩
    exact ⟨last.turn isOpen turn, inTime.turn turn⟩
  · rintro v occurrence sane meets idle ⟨last, inTime⟩
    refine ⟨last.met sane meets, inTime.after sane meets idle fun next waits => ?_⟩
    -- the only wait that is left is the one that was under way
    obtain ⟨_, -, passes⟩ := last.since
    have same := passes.deadline next (deadline?_stage.mpr waits)
    rw [Option.mem_def, deadline?_stage, waiting] at same
    exact (Phase.waiting.inj same).symm

end LastCycle

/-! ## Every session -/

namespace World

variable {w v : World}

/-- Nothing was done by a session that was not begun. -/
theorem doings_of_created (stream : Stream) (options : Options) (filter : Filter) (now : Nat)
    (course : List Occurrence)
    (created : ((opened stream options filter now).follow course).phase = .created) :
    ((opened stream options filter now).follow course).doings = [] := by
  refine follow_keeps (I := fun s w => s = .created → w.doings = [])
    (fun _ turn _ same => absurd same (begun_turn turn)) (fun meets idle same => ?_)
    (sane_opened stream options filter now) (fun _ => rfl) course (by rw [stage, created]; rfl)
  cases meets with
  | queued =>
    rw [doings_more (happenings_enqueue ..), idle same]
    rfl
  | _ => exact idle same

/-- A session that finds a stop request at the head of its loop ends. -/
theorem settle_of_requested (head : w.phase = .atHead) (requested : w.stop.requested = true) :
    w.settle = w.finish .interrupted := by
  refine settle_of_rests ?_ (rests_finish w _)
  rw [advance_head head, if_pos requested]

theorem settle_begin_of_requested (unbegun : w.phase = .created)
    (requested : w.stop.requested = true) :
    w.begin.settle = (w.enter .active).finish .interrupted := by
  have begun : w.begin = { w.enter .active with phase := .atHead } := by
    simp only [World.begin, unbegun]
  rw [begun]
  exact settle_of_requested rfl requested

theorem requested_deliver {stop : Stop} (installed : stop.installed = true) (signal : Signal) :
    (stop.deliver signal).requested = true := by
  simp [Stop.deliver, installed, Stop.requested]

/-- A stop request that was made before a session begins ends it at once, and nothing is shown or
    written.

    A signal that comes while a session is suspended in its wait lets it wait on, but it begins no
    further wait.  From then on it reads once at most, answers one line and sends one probe, and ends,
    with outcome `interrupted` unless something in this cycle is the cause of another one.  If no
    time passes but while it waits, so that no write is left pending either, it ends by the deadline
    of this wait.  In whole milliseconds the deadline is at most a full interval after the last send
    or the creation, and without an interval it is a second after the wait began. -/
theorem follow_signal (stream : Stream) (options : Options) (filter : Filter) (created : Nat)
    (course : List Occurrence) (lively : options.heartbeatInterval ≠ some 0) :
    let start := opened stream options filter created
    let w := start.follow course
    (w.phase = .created → w.stop.requested = true → ∃ failure,
      w.begin.settle.phase = .ended .interrupted ∧ w.begin.settle.doings =
        [.entered .active, .entered .closedClean, .exchanged (.shutDown failure)]) ∧
    ∀ deadline signal, w.phase = .waiting deadline → w.IsSuspended → w.stop.installed = true →
      let raised := w.after (.act (.signal signal))
      (∀ later, let v := raised.follow later
        (∀ front back, later = front ++ back → ∀ next, v.phase = .waiting next →
          (raised.follow front).phase = .waiting deadline ∧ next = deadline) ∧
        (v.settle.phase.isOver = true ∨ v.settle.IsHeld ∨
          v.settle.phase = .waiting deadline ∧ v.now < deadline) ∧
        ∃ new, v.history = w.history ++ new ∧
          (new.filterMap (·.what.deed?)).Sublist [.read, .line, .probe] ∧
          (∀ outcome, v.phase = .ended outcome →
            outcome.HasCause (.waiting deadline) (new.map (·.what)) v) ∧
          (AtEach (fun before occurrence => (raised.follow before).PassesIdly occurrence) later →
            (v.phase.isOver = false → v.now ≤ deadline) ∧
            ∀ record ∈ new, record.time ≤ deadline)) ∧
      (millisecond ∣ created → (∀ occurrence ∈ course, millisecond ∣ occurrence.duration) →
        start.BoundsWait course deadline) ∧
      ∀ script : Script, script.opened options filter = start →
        script.Reaches options filter course → start.BoundsWait course deadline := by
  intro start w
  have opening : Sane start.stage start := sane_opened stream options filter created
  have sane : Sane w.stage w := opening.follow course
  have interval : w.session.clock.interval = options.heartbeatInterval :=
    interval_follow opening course
  refine ⟨fun unbegun requested => ?_, fun deadline signal waiting suspended installed => ?_⟩
  · have idle : w.doings = [] := doings_of_created stream options filter created course unbegun
    have standing : w.stage = .created := congrArg Phase.stage unbegun
    have isOpen : w.session.transport.closed = false :=
      sane.trans (congrArg Stage.isOver standing)
    rw [settle_begin_of_requested unbegun requested]
    refine ⟨w.session.transport.stream.shutdownFailure, rfl, ?_⟩
    rw [doings_more (finish_more (happenings_enter w .active) isOpen .interrupted), idle]
    rfl
  · intro raised
    have raisedSane : Sane raised.stage raised := sane.after (.act (.signal signal))
    have requested : raised.stop.requested = true := requested_deliver installed signal
    have raisedWaiting : raised.phase = .waiting deadline := waiting
    have standing : raised.stage = .waiting deadline := congrArg Phase.stage waiting
    have bounded (wholeStart : millisecond ∣ created)
        (durations : ∀ occurrence ∈ course, millisecond ∣ occurrence.duration) :
        start.BoundsWait course deadline :=
      boundsWait_opened stream options filter wholeStart durations waiting suspended
    refine ⟨fun later => ⟨?_, ?_, ?_⟩, bounded, fun script same reached => ?_⟩
    · rintro front back rfl next waits
      -- a wait at the end was there when the signal came, and at every point between
      have first := LastCycle.waiting_before raisedSane requested [] (front ++ back) waits
      obtain rfl : next = deadline := Phase.waiting.inj (first.symm.trans raisedWaiting)
      exact ⟨LastCycle.waiting_before raisedSane requested front back waits, rfl⟩
    · obtain ended | held | ⟨next, waits, settled, early⟩ :=
        LastCycle.settle_cases raisedSane (interval ▸ lively) (by simp [standing]) requested later
      · exact .inl ended
      · exact .inr (.inl held)
      · obtain rfl : next = deadline := Phase.waiting.inj (waits.symm.trans raisedWaiting)
        exact .inr (.inr ⟨settled, early⟩)
    · obtain ⟨new, history, deeds, causes⟩ := LastCycle.exists_records raisedSane
        (congrArg Stage.isRunning standing) requested later
      rw [standing] at deeds causes
      refine ⟨new, history, deeds, causes, fun idle => ?_⟩
      -- both ways to tell the new records speak of the same ones
      have early : raised.now ≤ deadline := Nat.le_of_lt (suspended.lt_deadline waiting)
      have inTime := LastCycle.follow_inTime raisedSane requested raisedWaiting early idle
      refine ⟨fun running => inTime.running ((stage_isOver _).trans running), ?_⟩
      obtain ⟨added, same, times⟩ := inTime.records
      rw [history] at same
      exact List.append_cancel_left same ▸ times
    · -- the session of a script is created at time 0
      have created : 0 = created := congrArg World.now same
      exact bounded (created ▸ Nat.dvd_zero _) reached.dvd_duration

/-- A signal in the first wait of a session, which ends after a second with the probe that is due
    then; and a signal before the session begins. -/
theorem follow_signal_first :
    let waiting := (opened {} ⟨some second, [0], 1, "quit"⟩ (.sentinel [0]) 0).follow
      [.act .installHandlers, .begin, .move]
    let raised := waiting.after (.act (.signal .term))
    let unbegun := (opened {} ⟨some second, [0], 1, "quit"⟩ (.sentinel [0]) 0).follow
      [.act .installHandlers, .act (.signal .term)]
    (∃ new, (raised.follow [.elapse second, .move, .move]).history = waiting.history ++ new ∧
      ∀ record ∈ new, record.time ≤ second) ∧
    second ≤ lastSend 0 waiting.history + second ∧
    unbegun.begin.settle.phase = .ended .interrupted := by
  intro waiting raised unbegun
  let script : Script := { before := [.installHandlers], steps := [] }
  obtain ⟨-, signalled⟩ := follow_signal {} ⟨some second, [0], 1, "quit"⟩ (.sentinel [0]) 0
    [.act .installHandlers, .begin, .move] (by decide)
  obtain ⟨ends, -, bounds⟩ := signalled second .term rfl (by decide) rfl
  obtain ⟨-, -, new, history, -, -, inTime⟩ := ends [.elapse second, .move, .move]
  have bounded := bounds script rfl ⟨1, by decide⟩
  obtain ⟨before, -⟩ := follow_signal {} ⟨some second, [0], 1, "quit"⟩ (.sentinel [0]) 0
    [.act .installHandlers, .act (.signal .term)] (by decide)
  obtain ⟨_, ended, -⟩ := before rfl rfl
  exact ⟨⟨new, history, (inTime (by decide)).2⟩, bounded.beating second rfl (by decide), ended⟩

end World

end Lifeline
