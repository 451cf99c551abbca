import Lifeline.Proofs.Session.Cycle

/-! # Courses of a session

A course is a list of what happens one after the other: acts of the outside, time that passes, the
beginning of the run and the moves of the session, in any order.  `follow` is the world at the end
of a course, so a statement about every course is about every run at every moment, whatever
interleaves with what.  A script lets the session move until it is suspended before it goes on;
`Script.follow_course` shows that its runs are courses.

`follow_keeps` is the rule by which a property of every course is proved: each turn of the loop
keeps it, and so does everything that comes from outside.
-/

namespace Lifeline

/-! ## Courses -/

inductive Occurrence where
  | act (act : Act)
  /-- So many nanoseconds pass. -/
  | elapse (duration : Nat)
  /-- The session is told to run. -/
  | begin
  /-- The session makes its next move, if it has one. -/
  | move
deriving DecidableEq, Repr

def Occurrence.bytes : Occurrence → Bytes
  | .act (.stream (.arrive bytes)) => bytes
  | _ => []

namespace World

def after (w : World) : Occurrence → World
  | .act act => (w.apply act).2
  | .elapse duration => { w with now := w.now + duration }
  | .begin => w.begin
  | .move => w.advance?.getD w

def follow (w : World) (course : List Occurrence) : World := course.foldl after w

/-- A session over a fresh connection that has not begun to run. -/
def opened (stream : Stream) (options : Options) (filter : Filter) (now : Nat) : World where
  now
  session := .start { stream } options filter now

@[simp] theorem follow_nil (w : World) : w.follow [] = w := rfl

@[simp] theorem follow_cons (w : World) (occurrence : Occurrence) (course : List Occurrence) :
    w.follow (occurrence :: course) = (w.after occurrence).follow course := rfl

theorem follow_append (w : World) (course later : List Occurrence) :
    w.follow (course ++ later) = (w.follow course).follow later := List.foldl_append

theorem follow_acts (w : World) (acts : List Act) :
    w.follow (acts.map .act) = (w.applyAll acts).2 := by
  induction acts generalizing w with
  | nil => rfl
  | cons act acts inductionHypothesis => exact inductionHypothesis _

/-! ## What comes from outside -/

def withStream (w : World) (stream : Stream) : World :=
  { w with session := { w.session with transport := { w.session.transport with stream } } }

def enqueue (w : World) (text : String) : World :=
  { w with operator := { w.operator with lines := w.operator.lines ++ [text] } }.note
    [.queued text]

theorem happenings_enqueue (w : World) (text : String) :
    (w.enqueue text).happenings = w.happenings ++ [.queued text] := happenings_note ..

/-- What an occurrence that comes from outside can do. -/
inductive Meets (w : World) : Occurrence → World → Prop where
  | stream (change : Stream.Change) :
      Meets w (.act (.stream change)) (w.withStream (w.session.transport.stream.change change))
  | queued {text : String} (running : w.phase.isOver = false) (awaited : w.operator.ended = false) :
      Meets w (.act (.line text)) (w.enqueue text)
  | refused {text : String} : Meets w (.act (.line text)) w
  | closeInput : Meets w (.act .closeInput) { w with operator := w.operator.close }
  | pass {occurrence : Occurrence} (quiet : occurrence.bytes = []) (duration : Nat) :
      Meets w occurrence { w with now := w.now + duration }
  | request {occurrence : Occurrence} (quiet : occurrence.bytes = []) (stop : Stop) :
      Meets w occurrence { w with stop }

/-- A line is added to the queue or nothing happens, which the queue and the phase decide. -/
theorem enterLine_eq (w : World) (text : String) :
    (w.enterLine text).2 =
      if w.phase.isOver = false ∧ w.operator.ended = false ∧
          w.operator.lines.length < Operator.capacity then w.enqueue text else w := by
  by_cases gone : w.operator.ended = true
  · have offered : w.operator.offer text = (.noSender, w.operator) := by
      simp [Operator.Queue.offer, gone]
    rw [enterLine, offered]
    simp [gone]
  by_cases full : Operator.capacity ≤ w.operator.lines.length
  · have offered : w.operator.offer text = (.full, w.operator) := by
      simp [Operator.Queue.offer, gone, full]
    rw [enterLine, offered, if_neg (by omega)]
    dsimp only
    split <;> rfl
  · have offered : w.operator.offer text =
        (.queued, { w.operator with lines := w.operator.lines ++ [text] }) := by
      simp [Operator.Queue.offer, gone, full]
    have free : w.operator.lines.length < Operator.capacity := Nat.not_le.mp full
    rw [enterLine, offered]
    cases ended : w.phase.isOver with
    | true => simp
    | false =>
      rw [if_pos ⟨rfl, by simpa using gone, free⟩]
      rfl

theorem enterLine_meets (w : World) (text : String) :
    Meets w (.act (.line text)) (w.enterLine text).2 := by
  rw [enterLine_eq]
  split
  · rename_i accepted
    exact .queued accepted.1 accepted.2.1
  · exact .refused

theorem apply_meets (w : World) (act : Act) : Meets w (.act act) (w.apply act).2 := by
  cases act with
  | stream change => exact .stream change
  | line text => exact w.enterLine_meets text
  | closeInput => exact .closeInput
  | sleep milliseconds => exact .pass rfl _
  | ctrlC => exact .request rfl _
  | installHandlers => exact .request rfl _
  | signal signal => exact .request rfl _

theorem phase_apply (w : World) (act : Act) : (w.apply act).2.phase = w.phase := by
  have meets := w.apply_meets act
  generalize (w.apply act).2 = v at meets
  cases meets <;> rfl

theorem stage_isOver (w : World) : w.stage.isOver = w.phase.isOver := by
  unfold stage
  cases w.phase <;> rfl

theorem Meets.stage {w v : World} {occurrence : Occurrence} (meets : Meets w occurrence v) :
    v.stage = w.stage := by
  cases meets <;> rfl

theorem Meets.closed {w v : World} {occurrence : Occurrence} (meets : Meets w occurrence v) :
    v.session.transport.closed = w.session.transport.closed := by
  cases meets <;> rfl

theorem Meets.settings {w v : World} {occurrence : Occurrence} (meets : Meets w occurrence v) :
    v.session.settings = w.session.settings := by
  cases meets <;> rfl

/-! ## Properties of every course -/

open Stage (Turn Turns)

/-- The connection of a session is open until it ends. -/
def Sane (s : Stage) (w : World) : Prop := w.session.transport.closed = s.isOver

theorem begin_turns {w : World} (sane : Sane w.stage w) : Turns w.stage w w.begin.stage w.begin := by
  unfold World.begin
  split
  · rename_i created
    have standing : w.stage = .created := by rw [stage, created]; rfl
    rw [standing] at sane ⊢
    exact .single sane .begin
  · exact .refl

theorem move_turns {w : World} (sane : Sane w.stage w) :
    Turns w.stage w (w.after .move).stage (w.after .move) := by
  unfold after
  dsimp only
  cases advanced : w.advance? with
  | none => exact .refl
  | some v =>
    -- only a session that has not ended has a next move
    have running : w.stage.isOver = false := by
      unfold advance? at advanced
      unfold stage
      split at advanced <;> rename_i standing <;> rw [standing] <;> first | rfl | cases advanced
    exact advance?_turns (sane.trans running) advanced

/-- An occurrence comes from outside, or it is a run of turns of the loop. -/
theorem after_cases {w : World} (sane : Sane w.stage w) (occurrence : Occurrence) :
    Meets w occurrence (w.after occurrence) ∨
      (occurrence.bytes = [] ∧
        Turns w.stage w (w.after occurrence).stage (w.after occurrence)) := by
  cases occurrence with
  | act act => exact .inl (w.apply_meets act)
  | elapse duration => exact .inl (.pass rfl duration)
  | begin => exact .inr ⟨rfl, begin_turns sane⟩
  | move => exact .inr ⟨rfl, move_turns sane⟩

theorem Sane.turn {s t : Stage} {w v : World} (isOpen : w.session.transport.closed = false)
    (turn : Turn s w t v) : Sane t v := by
  cases turn with
  | read receives => exact receives.closed.trans isOpen
  | stop | interrupt | close | quit | lineFailed | readFailed | inputOver | probeFailed =>
    exact closed_finish ..
  | _ => exact isOpen

theorem Sane.after {w : World} (sane : Sane w.stage w) (occurrence : Occurrence) :
    Sane (w.after occurrence).stage (w.after occurrence) := by
  obtain meets | ⟨-, turns⟩ := after_cases sane occurrence
  · rw [meets.stage]
    exact meets.closed.trans sane
  · exact turns.keeps (fun isOpen turn _ => .turn isOpen turn) sane

theorem Sane.follow {w : World} (sane : Sane w.stage w) (course : List Occurrence) :
    Sane (w.follow course).stage (w.follow course) := by
  induction course generalizing w with
  | nil => exact sane
  | cons occurrence course inductionHypothesis => exact inductionHypothesis (sane.after occurrence)

theorem sane_opened (stream : Stream) (options : Options) (filter : Filter) (now : Nat) :
    Sane (opened stream options filter now).stage (opened stream options filter now) := rfl

/-- A property of every course: it holds at the start, every turn of the loop keeps it, and so does
    all that comes from outside. -/
theorem follow_keeps {I : Stage → World → Prop}
    (turned : ∀ {s t w v}, w.session.transport.closed = false → Turn s w t v → I s w → I t v)
    (met : ∀ {w v occurrence}, Meets w occurrence v → I w.stage w → I w.stage v)
    {w : World} (sane : Sane w.stage w) (holds : I w.stage w) (course : List Occurrence) :
    I (w.follow course).stage (w.follow course) := by
  -- along the course, with the world at its beginning free
  induction course generalizing w with
  | nil => exact holds
  | cons occurrence course inductionHypothesis =>
    refine inductionHypothesis (sane.after occurrence) ?_
    obtain meets | ⟨-, turns⟩ := after_cases sane occurrence
    · rw [meets.stage]
      exact met meets holds
    · exact turns.keeps turned holds

theorem settings_follow {w : World} (sane : Sane w.stage w) (course : List Occurrence) :
    (w.follow course).session.settings = w.session.settings :=
  follow_keeps (I := fun _ v => v.session.settings = w.session.settings)
    (fun _ turn same => turn.settings.trans same) (fun meets same => meets.settings.trans same)
    sane rfl course

/-! ## Moves -/

variable {w v : World}

theorem moves_eq_follow (n : Nat) (w : World) : moves n w = w.follow (List.replicate n .move) := by
  induction n generalizing w with
  | zero => rfl
  | succ n inductionHypothesis =>
    rw [List.replicate_succ, follow_cons, ← inductionHypothesis, moves]
    cases advanced : w.advance? with
    | some later => simp [World.after, advanced]
    | none =>
      -- a session that rests stays where it is
      have still : w.after .move = w := by simp [World.after, advanced]
      rw [still]
      cases n <;> simp [moves, advanced]

/-- No turn of the loop takes time. -/
theorem now_turn {s t : Stage} (turn : Turn s w t v) : v.now = w.now := by
  cases turn with
  | read receives => cases receives <;> rfl
  | stop | interrupt | close | quit | lineFailed | readFailed | inputOver | probeFailed =>
    simp only [finish, closeTransport]
    rfl
  | _ => rfl

theorem now_turns {s t : Stage} (turns : Turns s w t v) : v.now = w.now :=
  turns.keeps (I := fun _ v => v.now = w.now) (fun _ turn same => (now_turn turn).trans same) rfl

/-- No turn of the loop answers for what comes from outside. -/
theorem stop_turn {s t : Stage} (turn : Turn s w t v) : v.stop = w.stop := by
  cases turn with
  | read receives => cases receives <;> rfl
  | _ => rfl

theorem stop_turns {s t : Stage} (turns : Turns s w t v) : v.stop = w.stop :=
  turns.keeps (I := fun _ v => v.stop = w.stop) (fun _ turn same => (stop_turn turn).trans same) rfl

theorem now_moves (n : Nat) (sane : Sane w.stage w) : (moves n w).now = w.now := by
  induction n generalizing w with
  | zero => rfl
  | succ n inductionHypothesis =>
    unfold moves
    split
    · rfl
    · rename_i later advanced
      have moved : w.after .move = later := by simp [World.after, advanced]
      rw [inductionHypothesis (moved ▸ sane.after .move), ← moved, now_turns (move_turns sane)]

theorem now_settle (sane : Sane w.stage w) : w.settle.now = w.now := now_moves _ sane

end World

end Lifeline
