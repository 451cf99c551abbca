import Lifeline.Config.Basic
import Lifeline.Proofs.Number.Value

/-! # What validation accepts

Validation and the settings derived from a configuration look at the same numbers by tests of their
own.  For the heartbeat interval both come down to its value and to that value in whole nanoseconds:
`heartbeatSpan_of_nearest` and `intervalFault?_of_nearest` say how, and `heartbeatSpan_validate` puts
the two side by side.
-/

namespace Lifeline

open Binary64 Number

/-! ## Durations from seconds -/

namespace Binary64

variable {x : Binary64} {r : ℤ}

theorem durationLimit_le_iff (n : Nat) :
    durationLimit * second ≤ n ↔ (2 ^ 64 * 10 ^ 9 : ℤ) ≤ n := by
  have limit : durationLimit * second = 2 ^ 64 * 10 ^ 9 := by decide
  rw [limit]
  norm_cast

/-- A number of seconds that is not below zero has a duration unless it is too long. -/
theorem nanoseconds?_of_nearest (finite : x.isFinite = true) (notBelow : 0 ≤ x.value)
    (nearest : IsNearest (x.value * 10 ^ 9) r) :
    ∃ n : Nat, (n : ℤ) = r ∧
      x.nanoseconds? = if (2 ^ 64 * 10 ^ 9 : ℤ) ≤ n then none else some n := by
  have notBelowZero : x.isBelowZero = false := by
    rw [← Bool.not_eq_true, isBelowZero_iff finite]
    exact not_lt.mpr notBelow
  have quotient : x.value * 10 ^ 9 = (x.numerator * second : Nat) / x.denominator := by
    have second_eq : (second : ℚ) = 10 ^ 9 := by norm_num [second]
    rw [value_eq notBelow, div_mul_eq_mul_div, Nat.cast_mul, second_eq]
  rw [quotient] at nearest
  refine ⟨_, (roundHalfEven_isNearest _ x.denominator_pos).unique nearest, ?_⟩
  simp only [nanoseconds?, not_isNan finite, notBelowZero, finite, Bool.or_self, Bool.not_true,
    Bool.false_eq_true, if_false]
  exact if_congr (durationLimit_le_iff _) rfl rfl

theorem nanoseconds?_of_not_finite (without : x.isFinite = false) : x.nanoseconds? = none := by
  simp [nanoseconds?, without]

end Binary64

/-! ## The heartbeat interval -/

namespace Config

variable {x : Binary64} {r : ℤ}

theorem intervalFault?_of_not_finite (without : x.isFinite = false) :
    intervalFault? x = some (.badInterval x) := by
  simp [intervalFault?, without]

/-- What is wrong with an interval, by its value and the nearest number of nanoseconds. -/
theorem intervalFault?_of_nearest (finite : x.isFinite = true)
    (nearest : IsNearest (x.value * 10 ^ 9) r) :
    intervalFault? x =
      if x.value < 0 then some (.badInterval x)
      else if x.value = 0 then none
      else if 2 ^ 64 * 10 ^ 9 ≤ r then some (.longInterval x)
      else if r < 10 ^ 6 then some (.shortInterval x)
      else none := by
  unfold intervalFault?
  simp only [finite, Bool.not_true, Bool.false_or, isBelowZero_iff finite, isPositive_iff finite]
  split
  · rfl
  · rename_i notBelow
    obtain ⟨n, rfl, duration⟩ := nanoseconds?_of_nearest finite (not_lt.mp notBelow) nearest
    have least : minHeartbeatInterval ≤ n ↔ ¬ (n : ℤ) < 10 ^ 6 := by
      simp only [minHeartbeatInterval, millisecond]
      omega
    rw [duration]
    by_cases zero : x.value = 0
    · rw [if_neg (by rw [zero]; exact lt_irrefl 0), if_pos zero]
    · rw [if_pos (lt_of_le_of_ne (not_lt.mp notBelow) (Ne.symm zero)), if_neg zero]
      by_cases long : (2 ^ 64 * 10 ^ 9 : ℤ) ≤ n
      · rw [if_pos long, if_pos long]
      · rw [if_neg long, if_neg long]
        simp only [least, ite_not]

theorem intervalFault?_eq_none_iff (finite : x.isFinite = true)
    (nearest : IsNearest (x.value * 10 ^ 9) r) :
    intervalFault? x = none ↔ x.value = 0 ∨ 0 < x.value ∧ 10 ^ 6 ≤ r ∧ r < 2 ^ 64 * 10 ^ 9 := by
  rw [intervalFault?_of_nearest finite nearest]
  obtain below | zero | above := lt_trichotomy x.value 0
  · simp [below, below.ne, below.le]
  · simp [zero]
  · rw [if_neg above.le.not_gt, if_neg above.ne', or_iff_right above.ne', and_iff_right above]
    split_ifs with long short
    · exact iff_of_false nofun (by omega)
    · exact iff_of_false nofun (by omega)
    · exact iff_of_true rfl (by omega)

theorem heartbeatSpan_of_not_finite {c : Config} (without : c.heartbeatInterval.isFinite = false) :
    c.heartbeatSpan = none := by
  simp [heartbeatSpan, nanoseconds?_of_not_finite without]

/-- The interval of a session, by the value of the setting and the nearest number of nanoseconds. -/
theorem heartbeatSpan_of_nearest {c : Config} (finite : c.heartbeatInterval.isFinite = true)
    (nearest : IsNearest (c.heartbeatInterval.value * 10 ^ 9) r) :
    c.heartbeatSpan.map Nat.cast =
      if c.heartbeatInterval.value ≤ 0 ∨ 2 ^ 64 * 10 ^ 9 ≤ r then none
      else some (max r (10 ^ 6)) := by
  unfold heartbeatSpan
  simp only [isAtMostZero_iff finite]
  split
  · rw [if_pos (.inl ‹_›), Option.map_none]
  · rename_i positive
    obtain ⟨n, rfl, duration⟩ :=
      nanoseconds?_of_nearest finite (le_of_lt (not_le.mp positive)) nearest
    have least : ((max n minHeartbeatInterval : Nat) : ℤ) = max (n : ℤ) (10 ^ 6) := by
      simp [minHeartbeatInterval, millisecond]
    rw [duration]
    simp only [positive, false_or]
    split
    · rfl
    · exact congrArg some least

theorem le_heartbeatSpan {c : Config} {span : Nat} (some : c.heartbeatSpan = some span) :
    10 ^ 6 ≤ span := by
  unfold heartbeatSpan at some
  split at some
  · cases some
  · obtain ⟨n, -, rfl⟩ := Option.map_eq_some_iff.mp some
    exact le_max_right n minHeartbeatInterval

/-! ## The whole configuration -/

theorem validate_eq_ok_iff (c : Config) :
    c.validate = .ok () ↔ Text.isAllBlank c.host = false ∧ c.port ≠ 0 ∧
      intervalFault? c.heartbeatInterval = none ∧ c.heartbeatSentinel.isEmpty = false ∧
      c.receiveBufferSize ≠ 0 ∧ Text.isAllBlank c.quitKeyword = false := by
  have sound : c.validate = .ok () ↔ c.invalid? = none := by
    unfold validate
    cases c.invalid? <;> simp
  rw [sound, invalid?]
  cases intervalFault? c.heartbeatInterval <;> grind

/-- Validation takes the fields one by one: beside the interval it accepts a configuration exactly if
    it accepts it without heartbeats. -/
theorem validate_eq_ok_iff_interval (c : Config) :
    c.validate = .ok () ↔ { c with heartbeatInterval := .zero }.validate = .ok () ∧
      intervalFault? c.heartbeatInterval = none := by
  have zero : intervalFault? .zero = none := by decide
  simp only [validate_eq_ok_iff, zero]
  tauto

/-- Validation and the interval of a session agree on every pattern of bits.  A pattern that denotes
    no finite number has no interval and is not accepted.  For the others let `r` be the nearest
    number of nanoseconds: there is no interval for a value that is not above zero or too long for a
    duration, and otherwise it is `r`, raised to a millisecond; and validation accepts zero and every
    value above it that is neither too long nor shorter than a millisecond.  An accepted interval is
    therefore kept as it is, and none is ever shorter than a millisecond. -/
theorem heartbeatSpan_validate (c : Config) :
    (match c.heartbeatInterval.datum with
      | .nan | .infinite _ => c.heartbeatSpan = none ∧ c.validate ≠ .ok ()
      | .finite value => ∃ r : ℤ, (∀ n, IsNearest (value * 10 ^ 9) n ↔ n = r) ∧
        c.heartbeatSpan.map Nat.cast =
          (if value ≤ 0 ∨ 2 ^ 64 * 10 ^ 9 ≤ r then none else some (max r (10 ^ 6))) ∧
        (c.validate = .ok () ↔ { c with heartbeatInterval := .zero }.validate = .ok () ∧
          (value = 0 ∨ 0 < value ∧ 10 ^ 6 ≤ r ∧ r < 2 ^ 64 * 10 ^ 9)) ∧
        (c.validate = .ok () →
          c.heartbeatSpan.map Nat.cast = if value = 0 then none else some r)) ∧
    ∀ span, c.heartbeatSpan = some span → 10 ^ 6 ≤ span := by
  refine ⟨?_, fun span => le_heartbeatSpan⟩
  cases isFinite : c.heartbeatInterval.isFinite with
  | false =>
    have refused : c.validate ≠ .ok () := by
      rw [ne_eq, validate_eq_ok_iff_interval, intervalFault?_of_not_finite isFinite]
      simp
    obtain nan | ⟨negative, infinite⟩ := datum_of_not_finite isFinite
    · rw [nan]
      exact ⟨heartbeatSpan_of_not_finite isFinite, refused⟩
    · rw [infinite]
      exact ⟨heartbeatSpan_of_not_finite isFinite, refused⟩
  | true =>
    rw [datum_of_finite isFinite]
    obtain ⟨r, unique⟩ := exists_nearest (c.heartbeatInterval.value * 10 ^ 9)
    have nearest := (unique r).mpr rfl
    have span := heartbeatSpan_of_nearest isFinite nearest
    have accepted := intervalFault?_eq_none_iff isFinite nearest
    refine ⟨r, unique, span, ?_, ?_⟩
    · rw [validate_eq_ok_iff_interval, accepted]
    · intro valid
      rw [span]
      obtain zero | ⟨above, long, short⟩ := accepted.mp (c.validate_eq_ok_iff_interval.mp valid).2
      · rw [if_pos (.inl zero.le), if_pos zero]
      · rw [if_neg (not_or.mpr ⟨not_le.mpr above, not_le.mpr short⟩), if_neg above.ne',
          max_eq_left long]

/-- The number just below a thousandth is a millisecond once it is rounded, so it is accepted. -/
example :
    let c : Config := { heartbeatInterval := ⟨0x3F50624DD2F1A9FB⟩ }
    c.validate = .ok () ∧ c.heartbeatSpan = some millisecond := by
  decide +kernel

end Config

end Lifeline
