import Lifeline.Proofs.Session.Rest
import Mathlib.Logic.Function.Iterate

/-! # Scripts as runs

A step of a script is made of impulses: acts that happen at one moment, or milliseconds that pass one
after the other.  A `Run` is a session together with the impulses that are still to come, and
`Run.next` goes on by one move of the session or, when the session rests, by one impulse.  A run needs
no bound on moves or deadlines; `exists_iterate_performed` shows that it ends where the script
leads, unless probes are sent without any interval between them and the session never rests.

What happens in a run, one thing after the other, is a course (`Script.course`), and to follow this
course is to run the script (`Script.follow_course`), to its end (`Script.performed_eq_follow`).  What
holds after every course therefore holds at every moment of every script, and a script lets time pass
in whole milliseconds only (`Script.Reaches.dvd_duration`).

Two sessions are compared along their runs.  One of them may need more moves than the other, so each
move of the first is matched by any number of moves of the second (`Mirrors`).
-/

namespace Lifeline

/-- A script: the stream of a fresh connection, the acts that come before the session runs, and the
    steps that follow. -/
structure Script where
  stream : Stream := {}
  before : List Act := []
  steps : List Step

/-- What a step of a script does to a session that rests, from one rest to the next. -/
def Step.impulses : Step → List (List Act)
  | .single (.sleep milliseconds) => List.replicate milliseconds [.sleep 1]
  | .single act => [[act]]
  | .batch acts => [acts]

def Script.impulses (script : Script) : List (List Act) := script.steps.flatMap Step.impulses

namespace World

variable {w v : World} {interval : Option Nat}

/-- What each of some acts keeps, all of them keep. -/
theorem applyAll_keeps {I : World → Prop} {acts : List Act}
    (applied : ∀ {w act}, act ∈ acts → I w → I (w.apply act).2) (holds : I w) :
    I (w.applyAll acts).2 := by
  induction acts generalizing w with
  | nil => exact holds
  | cons act acts inductionHypothesis =>
    exact inductionHypothesis (fun member => applied (by simp [member])) (applied (by simp) holds)

/-! ## Regular worlds -/

/-- What holds of each world of a script, with the interval of its session. -/
structure Regular (interval : Option Nat) (w : World) : Prop where
  sane : Sane w.stage w
  timekept : Timekept w.stage w
  whole : millisecond ∣ w.now
  beating : w.session.clock.interval = interval

namespace Regular

theorem created (stream : Stream) (options : Options) (filter : Filter) :
    Regular options.heartbeatInterval { session := .start { stream } options filter 0 } :=
  ⟨rfl, .opened stream options filter 0, Nat.dvd_zero _, rfl⟩

theorem after (regular : Regular interval w) {occurrence : Occurrence}
    (whole : millisecond ∣ occurrence.duration) : Regular interval (w.after occurrence) where
  sane := regular.sane.after occurrence
  timekept := regular.timekept.after regular.sane occurrence
  whole := by
    rw [now_after regular.sane]
    exact Nat.dvd_add regular.whole whole
  beating := (interval_after regular.sane occurrence).trans regular.beating

theorem begin (regular : Regular interval w) : Regular interval w.begin := by
  have whole : millisecond ∣ Occurrence.begin.duration := Nat.dvd_zero _
  exact regular.after whole

theorem advance (regular : Regular interval w) (advanced : w.advance? = some v) :
    Regular interval v := by
  have moved : w.after .move = v := by simp [World.after, advanced]
  exact moved ▸ regular.after (Nat.dvd_zero _)

theorem follow (regular : Regular interval w) {course : List Occurrence}
    (whole : ∀ occurrence ∈ course, millisecond ∣ occurrence.duration) :
    Regular interval (w.follow course) := by
  induction course generalizing w with
  | nil => exact regular
  | cons occurrence course inductionHypothesis =>
    obtain ⟨first, rest⟩ := List.forall_mem_cons.mp whole
    exact inductionHypothesis (regular.after first) rest

theorem applyAll (regular : Regular interval w) (acts : List Act) :
    Regular interval (w.applyAll acts).2 := by
  rw [← follow_acts]
  exact regular.follow (List.forall_mem_map.mpr fun act _ => dvd_duration_act act)

theorem moves (regular : Regular interval w) (n : Nat) : Regular interval (moves n w) := by
  rw [moves_eq_follow]
  exact regular.follow (by simp [Occurrence.duration])

theorem rests_settle (regular : Regular interval w) (lively : interval ≠ some 0) :
    w.settle.Rests := settle_rests regular.sane (regular.beating ▸ lively)

end Regular

/-! ## Impulses -/

/-- Some acts happen, and the session runs until it rests. -/
def respond (w : World) (acts : List Act) : World := (w.applyAll acts).2.settle

theorem Regular.respond (regular : Regular interval w) (acts : List Act) :
    Regular interval (w.respond acts) := (regular.applyAll acts).moves _

/-- A session that rests and does not wait rests at all times. -/
theorem Rests.later (rests : w.Rests) (busy : ∀ deadline, w.phase ≠ .waiting deadline)
    (time : Nat) : ({ w with now := time } : World).Rests := by
  unfold Rests advance? at rests ⊢
  dsimp only
  cases standing : w.phase with
  | created | ended => rfl
  | atHead =>
    rw [standing] at rests
    dsimp only at rests
    split at rests <;> cases rests
  | waiting deadline => exact absurd standing (busy deadline)
  | sendingLine | sendingProbe =>
    rw [standing] at rests
    dsimp only at rests ⊢
    split at rests
    · rename_i blocked
      exact if_pos blocked
    · cases rests

/-- Deadlines are ticks, so none passes within a millisecond. -/
theorem Regular.tick_le (regular : Regular interval w) {deadline : Nat}
    (waiting : w.phase = .waiting deadline) (early : w.now < deadline) :
    w.now + millisecond ≤ deadline := by
  obtain ⟨begun, -, -, set⟩ := regular.timekept.wait deadline (deadline?_stage.mpr waiting)
  have tick : millisecond ∣ deadline := set ▸ w.session.clock.dvd_deadline begun
  exact Nat.le_of_lt_add_of_dvd (Nat.add_lt_add_right early _)
    (Nat.dvd_add regular.whole (Nat.dvd_refl _)) tick

theorem passTo_waiting {deadline : Nat} (waiting : w.phase = .waiting deadline)
    (target stops : Nat) :
    passTo target (stops + 1) w =
      if deadline ≤ target then
        passTo target stops ({ w with now := max w.now deadline } : World).settle
      else { w with now := target } := by
  simp only [passTo, waiting]

theorem passTo_busy (busy : ∀ deadline, w.phase ≠ .waiting deadline) (target stops : Nat) :
    passTo target (stops + 1) w = { w with now := target } := by
  unfold passTo
  split
  · rename_i deadline waiting
    exact absurd waiting (busy deadline)
  · rfl

theorem respond_tick (w : World) :
    w.respond [.sleep 1] = ({ w with now := w.now + millisecond } : World).settle := by
  simp [respond, applyAll, apply]

/-- The first of the milliseconds that pass. -/
theorem passTo_tick (regular : Regular interval w) (rests : w.Rests) {target : Nat} (stops : Nat)
    (ahead : w.now + millisecond ≤ target) :
    ∃ left, stops + 1 ≤ left ∧
      passTo target (stops + 2) w = passTo target left (w.respond [.sleep 1]) := by
  rw [respond_tick]
  by_cases waits : ∃ deadline, w.phase = .waiting deadline
  · obtain ⟨deadline, waiting⟩ := waits
    have suspended : w.IsSuspended := ⟨rests, deadline, waiting⟩
    have early := suspended.lt_deadline waiting
    obtain now | later := Nat.eq_or_lt_of_le (regular.tick_le waiting early)
    · refine ⟨stops + 1, Nat.le_refl _, ?_⟩
      rw [passTo_waiting waiting, if_pos (now ▸ ahead), Nat.max_eq_right (Nat.le_of_lt early), now]
    · -- the deadline is still to come, and the session waits on
      refine ⟨stops + 2, Nat.le_succ _, ?_⟩
      have still : ({ w with now := w.now + millisecond } : World).phase = .waiting deadline := waiting
      rw [settle, moves_of_rests (suspended.later waiting later).1, passTo_waiting waiting,
        passTo_waiting still, Nat.max_eq_right (Nat.le_of_lt early),
        Nat.max_eq_right (Nat.le_of_lt later)]
  · have busy : ∀ deadline, w.phase ≠ .waiting deadline := fun deadline waiting =>
      waits ⟨deadline, waiting⟩
    refine ⟨stops + 2, Nat.le_succ _, ?_⟩
    rw [settle, moves_of_rests (rests.later busy _), passTo_busy busy, passTo_busy (by exact busy)]

/-- Time passes millisecond by millisecond. -/
theorem passTo_eq (lively : interval ≠ some 0) (regular : Regular interval w) (rests : w.Rests)
    {milliseconds stops : Nat} (enough : milliseconds < stops) :
    passTo (w.now + milliseconds * millisecond) stops w =
      (List.replicate milliseconds [.sleep 1]).foldl respond w := by
  induction milliseconds generalizing w stops with
  | zero =>
    obtain ⟨stops, rfl⟩ := Nat.exists_eq_succ_of_ne_zero (Nat.ne_of_gt enough)
    rw [Nat.zero_mul, Nat.add_zero, List.replicate_zero, List.foldl_nil]
    by_cases waits : ∃ deadline, w.phase = .waiting deadline
    · obtain ⟨deadline, waiting⟩ := waits
      have early := IsSuspended.lt_deadline ⟨rests, deadline, waiting⟩ waiting
      rw [passTo_waiting waiting, if_neg (by omega)]
    · exact passTo_busy (fun deadline waiting => waits ⟨deadline, waiting⟩) _ _
  | succ milliseconds inductionHypothesis =>
    obtain ⟨stops, rfl⟩ : ∃ left, stops = left + 2 := ⟨stops - 2, by omega⟩
    have ahead : w.now + millisecond ≤ w.now + (milliseconds + 1) * millisecond := by
      rw [Nat.succ_mul]
      omega
    obtain ⟨left, more, tick⟩ := passTo_tick regular rests stops ahead
    have ticked := regular.respond [.sleep 1]
    have now : (w.respond [.sleep 1]).now = w.now + millisecond := by
      rw [respond, now_settle (regular.applyAll _).sane]
      simp [applyAll, apply]
    have target : w.now + (milliseconds + 1) * millisecond =
        (w.respond [.sleep 1]).now + milliseconds * millisecond := by
      rw [now, Nat.succ_mul]
      omega
    rw [tick, target, List.replicate_succ, List.foldl_cons]
    exact inductionHypothesis ticked ((regular.applyAll _).rests_settle lively) (by omega)

theorem perform_eq (lively : interval ≠ some 0) (regular : Regular interval w) (rests : w.Rests)
    (step : Lifeline.Step) : (w.perform step).2 = step.impulses.foldl respond w := by
  cases step with
  | batch acts => rfl
  | single act =>
    cases act with
    | sleep milliseconds => exact passTo_eq lively regular rests (Nat.lt_succ_self _)
    | _ => rfl

theorem Regular.foldl_respond (lively : interval ≠ some 0) (regular : Regular interval w)
    (rests : w.Rests) (impulses : List (List Act)) :
    Regular interval (impulses.foldl World.respond w) ∧ (impulses.foldl World.respond w).Rests := by
  induction impulses generalizing w with
  | nil => exact ⟨regular, rests⟩
  | cons acts impulses inductionHypothesis =>
    exact inductionHypothesis (regular.respond acts) ((regular.applyAll acts).rests_settle lively)

/-- A script is made of its impulses. -/
theorem performAll_eq (lively : interval ≠ some 0) (regular : Regular interval w) (rests : w.Rests)
    (steps : List Lifeline.Step) :
    w.performAll steps = (steps.flatMap Step.impulses).foldl respond w := by
  induction steps generalizing w with
  | nil => rfl
  | cons step steps inductionHypothesis =>
    obtain ⟨later, rested⟩ := regular.foldl_respond lively rests step.impulses
    have first : w.performAll (step :: steps) = (w.perform step).2.performAll steps := rfl
    rw [first, perform_eq lively regular rests, inductionHypothesis later rested, List.flatMap_cons,
      List.foldl_append]

end World

/-! ## Runs -/

/-- A session under a script, and the impulses of the script that are still to come. -/
structure Run where
  world : World
  impulses : List (List Act)

namespace Run

/-- The session makes its next move, or the next impulse reaches it if it rests. -/
def next (run : Run) : Run :=
  match run.world.advance?, run.impulses with
  | some world, impulses => { world, impulses }
  | none, acts :: impulses => { world := (run.world.applyAll acts).2, impulses }
  | none, [] => run

/-- The script is over, and the session rests. -/
def IsOver (run : Run) : Prop := run.world.Rests ∧ run.impulses = []

/-- A session that begins to run after some acts, and the impulses that follow. -/
def start (stream : Stream) (options : Options) (filter : Filter) (before : List Act)
    (impulses : List (List Act)) : Run where
  world := (({ session := .start { stream } options filter 0 } : World).applyAll before).2.begin
  impulses

variable {run : Run} {w v : World} {impulses : List (List Act)} {interval : Option Nat}

theorem next_advance (advanced : w.advance? = some v) : next ⟨w, impulses⟩ = ⟨v, impulses⟩ := by
  simp only [next, advanced]

theorem next_rests (rests : w.Rests) (acts : List Act) :
    next ⟨w, acts :: impulses⟩ = ⟨(w.applyAll acts).2, impulses⟩ := by
  simp only [next, show w.advance? = none from rests]

theorem next_finished (rests : w.Rests) : next ⟨w, []⟩ = ⟨w, []⟩ := by
  simp only [next, show w.advance? = none from rests]

theorem iterate_over (finished : run.IsOver) (n : Nat) : next^[n] run = run := by
  obtain ⟨w, impulses⟩ := run
  obtain ⟨rests, rfl⟩ : w.Rests ∧ impulses = [] := finished
  exact Function.iterate_fixed (next_finished rests) n

/-- A run ends in one way only. -/
theorem over_unique {m n : Nat} (first : (next^[m] run).IsOver) (second : (next^[n] run).IsOver) :
    next^[m] run = next^[n] run := by
  obtain ⟨more, rfl⟩ | ⟨more, rfl⟩ := (Nat.le_total m n).imp Nat.exists_eq_add_of_le
    Nat.exists_eq_add_of_le
  · rw [Nat.add_comm, Function.iterate_add_apply, iterate_over first]
  · rw [Nat.add_comm, Function.iterate_add_apply, iterate_over second]

/-- What holds until a run is over holds at all times. -/
theorem forall_iterate {P : World → Prop} {m : Nat} (finished : (next^[m] run).IsOver)
    (until_over : ∀ n ≤ m, P (next^[n] run).world) (n : Nat) : P (next^[n] run).world := by
  obtain early | late := Nat.le_total n m
  · exact until_over n early
  · obtain ⟨more, rfl⟩ := Nat.exists_eq_add_of_le late
    rw [Nat.add_comm, Function.iterate_add_apply, iterate_over finished]
    exact until_over m (Nat.le_refl m)

/-- The moves of a session are part of its run. -/
theorem exists_iterate_moves (n : Nat) (w : World) (impulses : List (List Act)) :
    ∃ m, next^[m] ⟨w, impulses⟩ = ⟨World.moves n w, impulses⟩ := by
  induction n generalizing w with
  | zero => exact ⟨0, rfl⟩
  | succ n inductionHypothesis =>
    cases advanced : w.advance? with
    | none => exact ⟨0, by rw [World.moves_of_rests advanced]; rfl⟩
    | some v =>
      obtain ⟨m, reached⟩ := inductionHypothesis v
      refine ⟨m + 1, ?_⟩
      rw [Function.iterate_succ_apply, next_advance advanced, reached, World.moves_succ advanced]

theorem exists_iterate_foldl (lively : interval ≠ some 0) (regular : w.Regular interval)
    (impulses : List (List Act)) :
    ∃ m, next^[m] ⟨w, impulses⟩ = ⟨impulses.foldl World.respond w.settle, []⟩ := by
  induction impulses generalizing w with
  | nil => exact exists_iterate_moves _ w []
  | cons acts impulses inductionHypothesis =>
    obtain ⟨m, settled⟩ := exists_iterate_moves w.work w (acts :: impulses)
    have rests : (World.moves w.work w).Rests := regular.rests_settle lively
    obtain ⟨n, reached⟩ := inductionHypothesis ((regular.moves w.work).applyAll acts)
    refine ⟨n + m.succ, ?_⟩
    rw [Function.iterate_add_apply, Function.iterate_succ_apply', settled, next_rests rests, reached]
    rfl

/-! ## Runs of scripts -/

theorem regular_start (stream : Stream) (options : Options) (filter : Filter) (before : List Act)
    (impulses : List (List Act)) :
    (start stream options filter before impulses).world.Regular options.heartbeatInterval :=
  ((World.Regular.created stream options filter).applyAll before).begin

end Run

namespace Script

/-- The run of a script. -/
def run (script : Script) (options : Options) (filter : Filter) : Run :=
  .start script.stream options filter script.before script.impulses

/-- Where a script leads. -/
def performed (script : Script) (options : Options) (filter : Filter) : World :=
  (World.prepare (.start { stream := script.stream } options filter 0) script.before).performAll
    script.steps

/-- The run of a script ends where the script leads. -/
theorem exists_iterate_performed (script : Script) {options : Options} (filter : Filter)
    (lively : options.heartbeatInterval ≠ some 0) :
    ∃ m, (Run.next^[m] (script.run options filter)).world = script.performed options filter ∧
      (Run.next^[m] (script.run options filter)).IsOver := by
  have regular := Run.regular_start script.stream options filter script.before script.impulses
  have rests := regular.rests_settle lively
  obtain ⟨m, reached⟩ := Run.exists_iterate_foldl lively regular script.impulses
  have performed := World.performAll_eq lively (regular.moves _) rests script.steps
  obtain ⟨-, rested⟩ := (regular.moves _).foldl_respond lively rests script.impulses
  have same : Run.next^[m] (script.run options filter) = _ := reached
  refine ⟨m, ?_, ?_⟩
  · rw [same]
    exact performed.symm
  · rw [same]
    exact ⟨rested, rfl⟩

end Script

/-! ## The course of a run -/

namespace Run

variable {run : Run} {interval : Option Nat}

/-- What happens in the next step of a run. -/
def occurrences (run : Run) : List Occurrence :=
  match run.world.advance?, run.impulses with
  | some _, _ => [.move]
  | none, acts :: _ => acts.map .act
  | none, [] => []

/-- What happens in so many steps of a run. -/
def course : Nat → Run → List Occurrence
  | 0, _ => []
  | n + 1, run => run.occurrences ++ course n run.next

theorem follow_occurrences (run : Run) : run.world.follow run.occurrences = run.next.world := by
  obtain ⟨w, impulses⟩ := run
  cases advanced : w.advance? with
  | some v => simp [occurrences, next, World.after, advanced]
  | none =>
    cases impulses with
    | nil => simp [occurrences, next, advanced]
    | cons acts impulses => simp [occurrences, next, advanced, World.follow_acts]

theorem follow_course (n : Nat) (run : Run) :
    run.world.follow (course n run) = (next^[n] run).world := by
  induction n generalizing run with
  | zero => rfl
  | succ n inductionHypothesis =>
    rw [course, World.follow_append, follow_occurrences, inductionHypothesis,
      Function.iterate_succ_apply]

theorem dvd_duration_occurrences (run : Run) :
    ∀ occurrence ∈ run.occurrences, millisecond ∣ occurrence.duration := by
  unfold occurrences
  split
  · simp [Occurrence.duration]
  · simpa using fun act _ => dvd_duration_act act
  · simp

theorem dvd_duration_course (n : Nat) (run : Run) :
    ∀ occurrence ∈ course n run, millisecond ∣ occurrence.duration := by
  induction n generalizing run with
  | zero => exact List.forall_mem_nil _
  | succ n inductionHypothesis =>
    exact List.forall_mem_append.mpr ⟨run.dvd_duration_occurrences, inductionHypothesis run.next⟩

theorem regular_iterate (regular : run.world.Regular interval) (n : Nat) :
    (next^[n] run).world.Regular interval := by
  rw [← follow_course]
  exact World.Regular.follow regular (dvd_duration_course n run)

/-- Histories only grow. -/
theorem history_iterate (regular : run.world.Regular interval) {m n : Nat} (earlier : m ≤ n) :
    (next^[m] run).world.history <+: (next^[n] run).world.history := by
  obtain ⟨more, rfl⟩ := Nat.exists_eq_add_of_le earlier
  have later := World.Regular.sane (regular_iterate regular m)
  rw [Nat.add_comm, Function.iterate_add_apply, ← follow_course more]
  exact World.history_follow later _

end Run

/-! ## The courses of a script -/

namespace Script

/-- The session of a script, when it has just been created. -/
def opened (script : Script) (options : Options) (filter : Filter) : World :=
  World.opened script.stream options filter 0

/-- What happens under a script in so many steps of its run. -/
def course (script : Script) (options : Options) (filter : Filter) (n : Nat) : List Occurrence :=
  script.before.map .act ++ .begin :: Run.course n (script.run options filter)

/-- Whether a course is what has happened under a script at some moment. -/
def Reaches (script : Script) (options : Options) (filter : Filter) (course : List Occurrence) :
    Prop := ∃ n, course <+: script.course options filter n

variable {script : Script} {options : Options} {filter : Filter} {course : List Occurrence}

/-- To follow the course of a script is to run it. -/
theorem follow_course (script : Script) (options : Options) (filter : Filter) (n : Nat) :
    (script.opened options filter).follow (script.course options filter n) =
      (Run.next^[n] (script.run options filter)).world := by
  rw [Script.course, World.follow_append, World.follow_acts, World.follow_cons, ← Run.follow_course]
  rfl

/-- A script leads to where its course leads when its run is over. -/
theorem performed_eq_follow (lively : options.heartbeatInterval ≠ some 0) {n : Nat}
    (finished : (Run.next^[n] (script.run options filter)).IsOver) :
    script.performed options filter =
      (script.opened options filter).follow (script.course options filter n) := by
  obtain ⟨m, performed, finished'⟩ := script.exists_iterate_performed filter lively
  rw [follow_course, ← performed, Run.over_unique finished' finished]

namespace Reaches

theorem dvd_duration (reached : script.Reaches options filter course) :
    ∀ occurrence ∈ course, millisecond ∣ occurrence.duration := by
  obtain ⟨n, earlier⟩ := reached
  intro occurrence member
  obtain before | rfl | running : occurrence ∈ script.before.map .act ∨ occurrence = .begin ∨
      occurrence ∈ Run.course n (script.run options filter) := by
    simpa [Script.course] using earlier.subset member
  · obtain ⟨act, -, rfl⟩ := List.mem_map.mp before
    exact dvd_duration_act act
  · exact Nat.dvd_zero _
  · exact Run.dvd_duration_course n _ occurrence running

theorem regular (reached : script.Reaches options filter course) :
    ((script.opened options filter).follow course).Regular options.heartbeatInterval :=
  (World.Regular.created script.stream options filter).follow reached.dvd_duration

end Reaches

end Script

/-! ## Runs that mirror each other -/

namespace Run

variable {run : Run} {w w' v : World} {impulses : List (List Act)}

/-- Each move of a session that reaches a world of some kind is matched by moves of another session,
    which comes to rest where the first one does, and meets what is left of each impulse. -/
structure Mirrors (R : World → World → Prop) (P : World → Prop) (A : List Act → Prop)
    (prune : List Act → Option (List Act)) : Prop where
  move {w w' v : World} (related : R w w') (good : P v) (advanced : w.advance? = some v) :
    ∃ n, R v (World.moves n w')
  rest {w w' : World} (related : R w w') (rests : w.Rests) :
    ∃ n, R w (World.moves n w') ∧ (World.moves n w').Rests
  meet {w w' : World} {acts : List Act} (related : R w w') (rests : w.Rests) (rests' : w'.Rests)
    (admitted : A acts) (good : P (w.applyAll acts).2) :
    R (w.applyAll acts).2 ((prune acts).elim w' fun left => (w'.applyAll left).2)

namespace Mirrors

variable {R : World → World → Prop} {P : World → Prop} {A : List Act → Prop}
  {prune : List Act → Option (List Act)}

theorem iterate (mirrors : Mirrors R P A prune) (related : R w w')
    (admitted : ∀ acts ∈ impulses, A acts) (always : ∀ n, P (next^[n] ⟨w, impulses⟩).world) (n : Nat) :
    ∃ m, R (next^[n] ⟨w, impulses⟩).world (next^[m] ⟨w', impulses.filterMap prune⟩).world ∧
      (next^[m] ⟨w', impulses.filterMap prune⟩).impulses =
        (next^[n] ⟨w, impulses⟩).impulses.filterMap prune := by
  induction n generalizing w w' impulses with
  | zero => exact ⟨0, related, rfl⟩
  | succ n inductionHypothesis =>
    have later (n : Nat) : P (next^[n] (next ⟨w, impulses⟩)).world := always (n + 1)
    rw [Function.iterate_succ_apply]
    cases advanced : w.advance? with
    | some v =>
      rw [next_advance advanced] at later ⊢
      obtain ⟨count, followed⟩ := mirrors.move related (later 0) advanced
      obtain ⟨j, moved⟩ := exists_iterate_moves count w' (impulses.filterMap prune)
      obtain ⟨m, reached⟩ := inductionHypothesis followed admitted later
      exact ⟨m + j, by rwa [Function.iterate_add_apply, moved]⟩
    | none =>
      cases impulses with
      | nil =>
        rw [next_finished advanced] at later ⊢
        exact inductionHypothesis related admitted later
      | cons acts impulses =>
        rw [next_rests advanced] at later ⊢
        obtain ⟨count, followed, rests⟩ := mirrors.rest related advanced
        obtain ⟨j, moved⟩ := exists_iterate_moves count w' ((acts :: impulses).filterMap prune)
        have met := mirrors.meet followed advanced rests (admitted acts (by simp)) (later 0)
        obtain ⟨m, reached⟩ :=
          inductionHypothesis met (fun other member => admitted other (by simp [member])) later
        cases pruned : prune acts with
        | none =>
          rw [pruned] at reached
          rw [List.filterMap_cons_none pruned] at moved ⊢
          exact ⟨m + j, by rwa [Function.iterate_add_apply, moved]⟩
        | some left =>
          rw [pruned] at reached
          rw [List.filterMap_cons_some pruned] at moved ⊢
          refine ⟨m + j.succ, ?_⟩
          rwa [Function.iterate_add_apply, Function.iterate_succ_apply', moved, next_rests rests]

/-- Where a run is over, so is the run that mirrors it. -/
theorem finished (mirrors : Mirrors R P A prune) (related : R w w')
    (admitted : ∀ acts ∈ impulses, A acts) (always : ∀ n, P (next^[n] ⟨w, impulses⟩).world) {n : Nat}
    (finished : (next^[n] ⟨w, impulses⟩).IsOver) :
    ∃ m, R (next^[n] ⟨w, impulses⟩).world (next^[m] ⟨w', impulses.filterMap prune⟩).world ∧
      (next^[m] ⟨w', impulses.filterMap prune⟩).IsOver := by
  obtain ⟨m, reached, left⟩ := mirrors.iterate related admitted always n
  obtain ⟨rests, nothing⟩ := finished
  obtain ⟨count, followed, rests'⟩ := mirrors.rest reached rests
  rw [nothing, List.filterMap_nil] at left
  obtain ⟨j, moved⟩ := exists_iterate_moves count (next^[m] ⟨w', impulses.filterMap prune⟩).world []
  have same : next^[m] ⟨w', impulses.filterMap prune⟩ =
      ⟨(next^[m] ⟨w', impulses.filterMap prune⟩).world, []⟩ := by
    rw [← left]
  refine ⟨j + m, ?_⟩
  rw [Function.iterate_add_apply, same, moved]
  exact ⟨followed, rests', rfl⟩

end Mirrors

end Run

end Lifeline
