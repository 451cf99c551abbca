import Lifeline.Proofs.Heartbeat.Clock
import Lifeline.Proofs.Session.Course

/-! # How a session keeps time

Each record bears the time at which it was made (`Turn.stamped`), timers fire on whole milliseconds
(`nextTick`), and the clock of a session says when the next probe is due.  `Clock.deadline` ties the
last two together: at a whole millisecond, the deadline of a wait has passed exactly if a probe is
due (`Clock.deadline_le_iff`).

`Timekept` is what every course keeps of this: the clock is never ahead of time, and the deadline of
a wait was set by this clock.
-/

namespace Lifeline

/-! ## Ticks -/

theorem le_nextTick (time : Nat) : time ≤ nextTick time := by
  unfold nextTick millisecond
  omega

theorem dvd_nextTick (time : Nat) : millisecond ∣ nextTick time := Nat.dvd_mul_left ..

/-- The next tick is the first whole millisecond from a time on. -/
theorem nextTick_le_iff {time tick : Nat} (whole : millisecond ∣ tick) :
    nextTick time ≤ tick ↔ time ≤ tick := by
  obtain ⟨count, rfl⟩ := whole
  unfold nextTick millisecond
  omega

theorem nextTick_eq_self {time : Nat} (whole : millisecond ∣ time) : nextTick time = time :=
  Nat.le_antisymm ((nextTick_le_iff whole).mpr (Nat.le_refl _)) (le_nextTick time)

/-! ## The clock and the deadline -/

namespace Clock

/-- The time at which a wait that began at `begun` ends by itself. -/
def deadline (clock : Clock) (begun : Nat) : Nat :=
  nextTick (begun + (clock.remaining begun).getD idlePoll)

theorem dvd_deadline (clock : Clock) (begun : Nat) : millisecond ∣ clock.deadline begun :=
  dvd_nextTick _

variable {clock : Clock} {interval begun time : Nat}

theorem deadline_eq (beating : clock.interval = some interval) (past : clock.lastSent ≤ begun) :
    clock.deadline begun = nextTick (max begun (clock.lastSent + interval)) := by
  simp only [deadline, remaining, beating, Option.map_some, Option.getD_some]
  congr 1
  omega

/-- At a whole millisecond, the deadline of a wait has passed if and only if a probe is due. -/
theorem deadline_le_iff (beating : clock.interval = some interval)
    (past : clock.lastSent ≤ begun) (since : begun ≤ time) (whole : millisecond ∣ time) :
    clock.deadline begun ≤ time ↔ clock.isDue time = true := by
  rw [deadline_eq beating past, nextTick_le_iff whole, isDue_iff beating (Nat.le_trans past since)]
  omega

/-- A wait that begins before a probe is due takes some time. -/
theorem lt_deadline (early : clock.isDue begun = false) : begun < clock.deadline begun := by
  refine Nat.lt_of_lt_of_le ?_ (le_nextTick _)
  cases beating : clock.interval with
  | none => simp [remaining, beating, idlePoll, second]
  | some interval =>
    simp only [isDue, beating, decide_eq_false_iff_not] at early
    simp only [remaining, beating, Option.map_some, Option.getD_some]
    omega

end Clock

/-! ## Stamps -/

namespace World

variable {w v x : World}

/-- Whether one world follows another at the same time, all new records being made at that time. -/
def Stamped (w v : World) : Prop :=
  v.now = w.now ∧ ∃ new : List Happening, v.history = w.history ++ new.map (Record.mk w.now)

theorem Stamped.same (now : v.now = w.now) (history : v.history = w.history) : Stamped w v :=
  ⟨now, [], by simp [history]⟩

theorem Stamped.trans (first : Stamped w v) (later : Stamped v x) : Stamped w x := by
  obtain ⟨now, new, history⟩ := first
  obtain ⟨now', new', history'⟩ := later
  exact ⟨now'.trans now, new ++ new', by rw [history', history, now]; simp⟩

theorem stamped_note (w : World) (happenings : List Happening) : Stamped w (w.note happenings) :=
  ⟨rfl, happenings, rfl⟩

/-- Where a session stands and what it keeps to itself leave no record. -/
theorem Stamped.adjust (stamped : Stamped w v) (session : Session) (phase : Phase) :
    Stamped w { v with session, phase } := stamped

theorem stamped_afterSend (w : World) (failure : Option (Cause × Nat)) (exchanges : List Exchange) :
    Stamped w (w.afterSend failure exchanges) := stamped_note ..

theorem stamped_finish (w : World) (outcome : Outcome) : Stamped w (w.finish outcome) := by
  have entered : Stamped w (w.enter outcome.state) := stamped_note ..
  have closed : Stamped (w.enter outcome.state) (w.enter outcome.state).closeTransport :=
    stamped_note ..
  exact (entered.trans closed).adjust _ _

theorem Stamped.grows (stamped : Stamped w v) : w.history <+: v.history := by
  obtain ⟨-, new, history⟩ := stamped
  exact ⟨_, history.symm⟩

/-- The happenings that were added are known, so the records that were added are. -/
theorem Stamped.records (stamped : Stamped w v) {new : List Happening}
    (more : v.happenings = w.happenings ++ new) :
    v.history = w.history ++ new.map (Record.mk w.now) := by
  obtain ⟨-, added, history⟩ := stamped
  have same : w.happenings ++ added = w.happenings ++ new := by
    rw [← more]
    simp [World.happenings, history, Function.comp_def]
  rw [history, List.append_cancel_left same]

end World

namespace Stage

open World

/-- All that a part of the loop does is recorded with the time at which it is done. -/
theorem Turn.stamped {s t : Stage} {w v : World} (turn : Turn s w t v) : Stamped w v := by
  cases turn with
  | begin => exact Stamped.adjust (stamped_note ..) _ _
  | skip | display => exact stamped_note ..
  | stop | interrupt | close | readFailed => exact stamped_finish ..
  | quit | inputOver => exact (stamped_note ..).trans (stamped_finish ..)
  | lineFailed | probeFailed => exact (stamped_afterSend ..).trans (stamped_finish ..)
  | read receives =>
    cases receives with
    | nothing => exact .same rfl rfl
    | failed => exact stamped_note ..
    | bytes => exact Stamped.adjust (stamped_note ..) _ _
  | lineSent =>
    exact ((stamped_afterSend ..).adjust _ _).trans (stamped_note ..)
  | lineHeld | probeSent | probeHeld => exact (stamped_afterSend ..).adjust _ _
  | _ => exact .same rfl rfl

end Stage

/-! ## Passing time -/

/-- How much time passes in an occurrence. -/
def Occurrence.duration : Occurrence → Nat
  | .act (.sleep milliseconds) => milliseconds * millisecond
  | .elapse duration => duration
  | _ => 0

/-- Acts let time pass in whole milliseconds. -/
theorem dvd_duration_act (act : Act) : millisecond ∣ (Occurrence.act act).duration := by
  cases act with
  | sleep milliseconds => exact Nat.dvd_mul_left ..
  | _ => exact Nat.dvd_zero _

namespace World

variable {w v : World}

theorem now_enterLine (w : World) (text : String) : (w.enterLine text).2.now = w.now := by
  rw [enterLine_eq]
  split <;> rfl

theorem now_after (sane : Sane w.stage w) (occurrence : Occurrence) :
    (w.after occurrence).now = w.now + occurrence.duration := by
  cases occurrence with
  | begin => exact now_turns (begin_turns sane)
  | move => exact now_turns (move_turns sane)
  | elapse duration => rfl
  | act act =>
    cases act with
    | line text => exact now_enterLine w text
    | _ => rfl

theorem history_after (sane : Sane w.stage w) (occurrence : Occurrence) :
    w.history <+: (w.after occurrence).history := by
  obtain meets | ⟨-, turns⟩ := after_cases sane occurrence
  · generalize w.after occurrence = v at meets
    cases meets with
    | queued => exact (stamped_note ..).grows
    | _ => exact List.prefix_refl _
  · exact turns.keeps (I := fun _ v => w.history <+: v.history)
      (fun _ turn earlier => earlier.trans turn.stamped.grows) (List.prefix_refl _)

/-- Histories only grow. -/
theorem history_follow (sane : Sane w.stage w) (course : List Occurrence) :
    w.history <+: (w.follow course).history := by
  induction course generalizing w with
  | nil => exact List.prefix_refl _
  | cons occurrence course inductionHypothesis =>
    exact (history_after sane occurrence).trans (inductionHypothesis (sane.after occurrence))

/-- The interval is set once and for all. -/
theorem interval_after (sane : Sane w.stage w) (occurrence : Occurrence) :
    (w.after occurrence).session.clock.interval = w.session.clock.interval := by
  have met {v : World} (meets : w.Meets occurrence v) :
      v.session.clock.interval = w.session.clock.interval := by
    cases meets <;> rfl
  obtain meets | ⟨-, turns⟩ := after_cases sane occurrence
  · exact met meets
  · refine turns.keeps (I := fun _ v => v.session.clock.interval = w.session.clock.interval) ?_ rfl
    intro s t u v isOpen turn same
    refine Eq.trans ?_ same
    cases turn with
    | read receives => cases receives <;> rfl
    | _ => rfl

theorem interval_follow (sane : Sane w.stage w) (course : List Occurrence) :
    (w.follow course).session.clock.interval = w.session.clock.interval := by
  induction course generalizing w with
  | nil => rfl
  | cons occurrence course inductionHypothesis =>
    exact (inductionHypothesis (sane.after occurrence)).trans (interval_after sane occurrence)

end World

/-! ## What is kept -/

namespace Stage

/-- The deadline of the wait that is under way. -/
def deadline? : Stage → Option Nat
  | .waiting deadline | .taken deadline _ => some deadline
  | _ => none

/-- The time at which a probe that is being sent was due. -/
def due? : Stage → Option Nat
  | .sendingProbe _ due => some due
  | _ => none

end Stage

theorem World.deadline?_stage {w : World} {deadline : Nat} :
    w.stage.deadline? = some deadline ↔ w.phase = .waiting deadline := by
  unfold stage
  cases w.phase <;> simp [Phase.stage, Stage.deadline?]

open World
open Stage (Turn)

/-- The clock is never ahead of time, a probe is sent because it was due, and a wait ends at the
    deadline that the clock set when it began. -/
structure Timekept (s : Stage) (w : World) : Prop where
  past : w.session.clock.lastSent ≤ w.now
  due : ∀ due ∈ s.due?, w.session.clock.isDue due = true ∧ w.session.clock.lastSent ≤ due ∧
    due ≤ w.now
  wait : ∀ deadline ∈ s.deadline?, ∃ begun, w.session.clock.lastSent ≤ begun ∧ begun ≤ w.now ∧
    deadline = w.session.clock.deadline begun

namespace Timekept

variable {s t : Stage} {w v : World}

/-- The clock and the time are the same, and nothing new is waited for or sent. -/
theorem keep (timekept : Timekept s w) (clock : v.session.clock = w.session.clock)
    (now : w.now ≤ v.now) (due : ∀ due ∈ t.due?, due ∈ s.due?)
    (deadline : ∀ deadline ∈ t.deadline?, deadline ∈ s.deadline?) : Timekept t v := by
  refine ⟨?_, fun time probing => ?_, fun time waiting => ?_⟩
  · rw [clock]
    exact Nat.le_trans timekept.past now
  · rw [clock]
    obtain ⟨isDue, past, reached⟩ := timekept.due time (due time probing)
    exact ⟨isDue, past, Nat.le_trans reached now⟩
  · rw [clock]
    obtain ⟨begun, past, reached, set⟩ := timekept.wait time (deadline time waiting)
    exact ⟨begun, past, Nat.le_trans reached now, set⟩

/-- The clock is set to a time that has been reached. -/
theorem record (reached : v.session.clock.lastSent ≤ v.now) (probing : t.due? = none)
    (waiting : t.deadline? = none) : Timekept t v :=
  ⟨reached, by simp [probing], by simp [waiting]⟩

theorem opened (stream : Stream) (options : Options) (filter : Filter) (now : Nat) :
    Timekept .created (World.opened stream options filter now) :=
  ⟨Nat.le_refl _, nofun, nofun⟩

theorem turn (isOpen : w.session.transport.closed = false) (turn : Turn s w t v)
    (timekept : Timekept s w) : Timekept t v := by
  have now : w.now ≤ v.now := Nat.le_of_eq (now_turn turn).symm
  cases turn with
  | wait =>
    refine ⟨timekept.past, nofun, ?_⟩
    rintro _ ⟨⟩
    exact ⟨w.now, timekept.past, Nat.le_refl _, rfl⟩
  | sendProbe due =>
    refine ⟨timekept.past, ?_, nofun⟩
    rintro _ ⟨⟩
    exact ⟨due, timekept.past, Nat.le_refl _⟩
  | lineSent => exact record (Nat.le_refl _) rfl rfl
  | probeSent => exact record (timekept.due _ rfl).2.2 rfl rfl
  -- the same wait and the same probe go on
  | takeLine | takeClose | takeNothing | probeHeld =>
    exact timekept.keep rfl now (fun _ same => same) fun _ same => same
  | read receives =>
    cases receives <;> exact timekept.keep rfl now nofun nofun
  | stop | interrupt | close | quit | lineFailed | readFailed | inputOver | probeFailed =>
    refine timekept.keep ?_ now nofun nofun
    rw [session_finish (by exact isOpen)]
    rfl
  | _ => exact timekept.keep rfl now nofun nofun

theorem met {occurrence : Occurrence} (meets : w.Meets occurrence v)
    (timekept : Timekept w.stage w) : Timekept w.stage v := by
  cases meets with
  | pass => exact timekept.keep rfl (Nat.le_add_right ..) (by simp) (by simp)
  | _ => exact timekept.keep rfl (Nat.le_refl _) (by simp) (by simp)

theorem after (sane : Sane w.stage w) (timekept : Timekept w.stage w) (occurrence : Occurrence) :
    Timekept (w.after occurrence).stage (w.after occurrence) :=
  follow_keeps turn met sane timekept [occurrence]

end Timekept

end Lifeline
