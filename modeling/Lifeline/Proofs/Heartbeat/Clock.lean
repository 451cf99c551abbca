import Lifeline.Heartbeat
import Mathlib.Order.Bounds.Defs

/-! # The arithmetic of the clock

`remaining` and `isDue` are formulas of their own that stop at zero in different places.  They agree at
every time (`isDue_iff_remaining`), before the last send as well as after it, so a wait for what remains
ends at the first time at which a probe is due (`isLeast_due`).  What a clock says depends on its sends
only through the last of them (`after_laws`).
-/

namespace Lifeline.Clock

variable {clock : Clock} {interval left now time : Nat}

/-! ## When a probe is due -/

theorem isDue_iff (beating : clock.interval = some interval) (past : clock.lastSent ≤ time) :
    clock.isDue time = true ↔ clock.lastSent + interval ≤ time := by
  simp only [isDue, beating, decide_eq_true_eq]
  omega

theorem not_isDue (silent : clock.interval = none) (time : Nat) : clock.isDue time = false := by
  simp only [isDue, silent]

/-- No probe is due right after a send. -/
theorem isDue_recordSend (lively : clock.interval ≠ some 0) (time : Nat) :
    (clock.recordSend time).isDue time = false := by
  cases beating : clock.interval with
  | none => simp only [recordSend, isDue, beating]
  | some interval =>
    have positive : interval ≠ 0 := fun zero => lively (by rw [beating, zero])
    simp only [recordSend, isDue, beating, decide_eq_false_iff_not]
    omega

/-! ## What remains -/

theorem remaining_eq (beating : clock.interval = some interval) (now : Nat) :
    clock.remaining now = some (interval - (now - clock.lastSent)) := by
  rw [remaining, beating, Option.map_some]

theorem remaining_of_silent (silent : clock.interval = none) (now : Nat) :
    clock.remaining now = none := by
  rw [remaining, silent, Option.map_none]

/-- A probe is due exactly when nothing remains, whatever the time. -/
theorem isDue_iff_remaining (clock : Clock) (now : Nat) :
    clock.isDue now = true ↔ clock.remaining now = some 0 := by
  cases beating : clock.interval with
  | none => simp [isDue, remaining, beating]
  | some interval =>
    rw [remaining_eq beating, Option.some.injEq]
    simp only [isDue, beating, decide_eq_true_eq]
    omega

/-- What remains is used up by a delay exactly if the probe is due behind it.  Before the last send
    this fails, for the interval has not begun. -/
theorem isDue_add_iff (past : clock.lastSent ≤ now) (remains : clock.remaining now = some left)
    (delay : Nat) : clock.isDue (now + delay) = true ↔ left ≤ delay := by
  obtain ⟨interval, beating, rfl⟩ := Option.map_eq_some_iff.mp remains
  rw [isDue_iff beating (Nat.le_add_right_of_le past)]
  omega

theorem isLeast_due (past : clock.lastSent ≤ now) (remains : clock.remaining now = some left) :
    IsLeast {time | now ≤ time ∧ clock.isDue time = true} (now + left) := by
  constructor
  · exact ⟨Nat.le_add_right .., (isDue_add_iff past remains left).mpr (Nat.le_refl _)⟩
  · rintro time ⟨later, due⟩
    obtain ⟨delay, rfl⟩ := Nat.exists_eq_add_of_le later
    exact Nat.add_le_add_left ((isDue_add_iff past remains delay).mp due) now

/-! ## After some sends -/

/-- A clock that was created at a time and then recorded sends, in any order of their times. -/
def after (interval : Option Nat) (created : Nat) (sends : List Nat) : Clock :=
  sends.foldl recordSend ⟨interval, created⟩

theorem after_eq (interval : Option Nat) (created : Nat) (sends : List Nat) :
    after interval created sends = ⟨interval, sends.getLastD created⟩ := by
  induction sends generalizing created with
  | nil => rfl
  | cons time sends inductionHypothesis =>
    rw [List.getLastD_cons]
    exact inductionHypothesis time

/-- A clock knows of its sends only the last one, or its creation if there was none.  With an
    interval, what remains is the part of it that has not passed since then, so it is never longer than
    the interval and never grows; a probe is due exactly when nothing remains; and from the last send
    on, a wait for what remains ends when the first probe is due.  Without an interval nothing remains
    and nothing is due. -/
theorem after_laws (interval : Option Nat) (created : Nat) (sends : List Nat) (now : Nat) :
    let clock := after interval created sends
    let last := sends.getLastD created
    match interval with
    | none => clock.remaining now = none ∧ clock.isDue now = false
    | some interval => ∃ left, clock.remaining now = some left ∧
        (left : Int) = max 0 ((interval : Int) - max 0 ((now : Int) - last)) ∧
        left ≤ interval ∧
        (∀ later left', now ≤ later → clock.remaining later = some left' → left' ≤ left) ∧
        (clock.isDue now = true ↔ left = 0) ∧
        (last ≤ now →
          (∀ delay, clock.isDue (now + delay) = true ↔ left ≤ delay) ∧
          IsLeast {time | now ≤ time ∧ clock.isDue time = true} (now + left)) := by
  intro clock last
  have known : clock = ⟨interval, last⟩ := after_eq interval created sends
  cases interval with
  | none =>
    have silent : clock.interval = none := by rw [known]
    exact ⟨remaining_of_silent silent now, not_isDue silent now⟩
  | some interval =>
    have beating : clock.interval = some interval := by rw [known]
    have since : clock.lastSent = last := by rw [known]
    have remains (time : Nat) : clock.remaining time = some (interval - (time - last)) := by
      rw [remaining_eq beating, since]
    refine ⟨_, remains now, by omega, Nat.sub_le .., ?_, ?_, fun past => ?_⟩
    · intro later left' after remains'
      rw [remains later, Option.some.injEq] at remains'
      omega
    · rw [isDue_iff_remaining, remains now, Option.some.injEq]
    · rw [← since] at past
      exact ⟨isDue_add_iff past (remains now), isLeast_due past (remains now)⟩

end Lifeline.Clock
