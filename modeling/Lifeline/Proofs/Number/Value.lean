import Mathlib.Algebra.Order.Field.Power
import Mathlib.Data.Rat.Cast.Order
import Mathlib.Tactic.FieldSimp
import Mathlib.Tactic.Linarith
import Mathlib.Tactic.Positivity
import Mathlib.Tactic.Ring
import Lifeline.Number.Binary64

/-! # What patterns denote

`Binary64.datum` reads a pattern as the interchange format for binary floating-point numbers has it:
no number, an infinity, or a rational.  The reading in natural numbers, a quotient of `numerator` and
`denominator` with a sign, comes to the same (`value_eq`), and the tests of a pattern's sign are
those of its value.

`Number.IsNearest` is rounding to whole numbers without an algorithm, and `roundHalfEven` does it.
-/

namespace Lifeline

/-! ## Rounding -/

namespace Number

/-- No whole number is nearer to `q` than `n`, and if another is as near, `n` is the even one. -/
structure IsNearest (q : ℚ) (n : ℤ) : Prop where
  near : |q - n| ≤ 1 / 2
  even : |q - n| = 1 / 2 → Even n

namespace IsNearest

variable {q : ℚ} {n m : ℤ}

theorem neg (nearest : IsNearest q n) : IsNearest (-q) (-n) := by
  have same : |-q - (-n : ℤ)| = |q - n| := by
    rw [← abs_neg, Int.cast_neg]
    ring_nf
  exact ⟨same ▸ nearest.near, fun tie => (nearest.even (same ▸ tie)).neg⟩

theorem not_lt (nearest : IsNearest q n) (other : IsNearest q m) : ¬ n < m := by
  intro less
  have apart : (n : ℚ) + 1 ≤ m := by exact_mod_cast less
  obtain ⟨-, above⟩ := abs_le.mp nearest.near
  obtain ⟨below, -⟩ := abs_le.mp other.near
  -- both are as near as can be, so they follow each other, and both would be even
  have next : m = n + 1 := by
    have : (m : ℚ) = n + 1 := by linarith
    exact_mod_cast this
  have tie : q - n = 1 / 2 := by linarith
  have tie' : q - m = -(1 / 2) := by rw [next]; push_cast; linarith
  have even := nearest.even (by rw [tie]; norm_num)
  have even' := other.even (by rw [tie']; norm_num)
  rw [next] at even'
  exact (Int.even_add_one.mp even') even

theorem unique (nearest : IsNearest q n) (other : IsNearest q m) : n = m :=
  le_antisymm (Int.not_lt.mp (other.not_lt nearest)) (Int.not_lt.mp (nearest.not_lt other))

end IsNearest

/-- The distance to a quotient, counted in parts of which the divisor makes one. -/
theorem isNearest_div {n d m : ℤ} (positive : 0 < d) (near : 2 * |n - d * m| ≤ d)
    (even : 2 * |n - d * m| = d → Even m) : IsNearest ((n : ℚ) / d) m := by
  have divisor : (0 : ℚ) < d := by exact_mod_cast positive
  have distance : |(n : ℚ) / d - m| = (|n - d * m| : ℤ) / d := by
    rw [Int.cast_abs, ← abs_of_pos divisor, ← abs_div, abs_of_pos divisor]
    congr 1
    push_cast
    field_simp
  constructor
  · rw [distance, div_le_iff₀ divisor]
    have : (2 * |n - d * m| : ℤ) ≤ (d : ℚ) := by exact_mod_cast near
    push_cast at this ⊢
    linarith
  · rw [distance, div_eq_iff divisor.ne']
    intro tie
    refine even ?_
    have : (2 * |n - d * m| : ℤ) = (d : ℚ) := by push_cast at tie ⊢; linarith
    exact_mod_cast this

theorem isNearest_below (n : Nat) {d : Nat} (positive : 0 < d) (near : 2 * (n % d) ≤ d)
    (even : 2 * (n % d) = d → Even (n / d)) : IsNearest ((n : ℚ) / d) (n / d : Nat) := by
  have division : (n : ℤ) = d * (n / d : Nat) + (n % d : Nat) := by
    exact_mod_cast (Nat.div_add_mod n d).symm
  have distance : |(n : ℤ) - d * (n / d : Nat)| = (n % d : Nat) := by
    rw [division, add_sub_cancel_left, Nat.abs_cast]
  refine isNearest_div (n := n) (d := d) (by omega) ?_ ?_ <;> rw [distance]
  · omega
  · exact fun tie => (Int.even_coe_nat _).mpr (even (by omega))

theorem isNearest_above (n : Nat) {d : Nat} (positive : 0 < d) (near : d ≤ 2 * (n % d))
    (even : 2 * (n % d) = d → Even (n / d + 1)) : IsNearest ((n : ℚ) / d) (n / d + 1 : Nat) := by
  have division : (n : ℤ) = d * (n / d : Nat) + (n % d : Nat) := by
    exact_mod_cast (Nat.div_add_mod n d).symm
  have smaller : n % d < d := Nat.mod_lt n positive
  have distance : |(n : ℤ) - d * (n / d + 1 : Nat)| = d - (n % d : Nat) := by
    rw [division, abs_sub_comm, abs_of_nonneg] <;> push_cast <;> linarith
  refine isNearest_div (n := n) (d := d) (by omega) ?_ ?_ <;> rw [distance]
  · omega
  · exact fun tie => (Int.even_coe_nat _).mpr (even (by omega))

theorem roundHalfEven_isNearest (n : Nat) {d : Nat} (positive : 0 < d) :
    IsNearest ((n : ℚ) / d) (roundHalfEven n d) := by
  unfold roundHalfEven
  split
  · exact isNearest_below n positive (by omega) (by omega)
  · split
    · exact isNearest_above n positive (by omega) (by omega)
    · obtain even | odd := Nat.even_or_odd (n / d)
      · rw [Nat.even_iff.mp even]
        exact isNearest_below n positive (by omega) fun _ => even
      · rw [Nat.odd_iff.mp odd]
        exact isNearest_above n positive (by omega) fun _ => odd.add_one

/-- Every rational has exactly one nearest whole number in this sense. -/
theorem exists_nearest (q : ℚ) : ∃ n : ℤ, ∀ m, IsNearest q m ↔ m = n := by
  have nearest : ∃ n, IsNearest q n := by
    obtain ⟨n, d, positive, rfl | rfl⟩ : ∃ n d : Nat, 0 < d ∧ (q = n / d ∨ q = -(n / d)) := by
      refine ⟨q.num.natAbs, q.den, q.den_pos, ?_⟩
      have absolute : (q.num.natAbs : ℚ) / q.den = |q| := by
        rw [Nat.cast_natAbs, Int.cast_abs, ← Nat.abs_cast q.den, ← abs_div, Rat.num_div_den]
      rw [absolute]
      exact eq_or_eq_neg_of_abs_eq rfl
    · exact ⟨_, roundHalfEven_isNearest n positive⟩
    · exact ⟨_, (roundHalfEven_isNearest n positive).neg⟩
  obtain ⟨n, nearest⟩ := nearest
  exact ⟨n, fun m => ⟨fun other => other.unique nearest, fun same => same ▸ nearest⟩⟩

end Number

/-! ## Values -/

namespace Binary64

/-- The absolute value of a finite pattern.  One with an exponent of zero has no leading one. -/
def magnitude (x : Binary64) : ℚ :=
  if x.exponentField = 0 then x.fraction / 2 ^ 52 * 2 ^ (-1022 : ℤ)
  else (1 + x.fraction / 2 ^ 52) * 2 ^ ((x.exponentField : ℤ) - 1023)

def value (x : Binary64) : ℚ := if x.isNegative then -x.magnitude else x.magnitude

/-- What a pattern denotes. -/
inductive Datum where
  | nan
  | infinite (negative : Bool)
  | finite (value : ℚ)

def datum (x : Binary64) : Datum :=
  if x.exponentField = 2047 then
    if x.fraction = 0 then .infinite x.isNegative else .nan
  else .finite x.value

theorem datum_of_finite {x : Binary64} (finite : x.isFinite = true) :
    x.datum = .finite x.value := by
  have field : x.exponentField ≠ 2047 := of_decide_eq_true finite
  rw [datum, if_neg field]

theorem datum_of_not_finite {x : Binary64} (without : x.isFinite = false) :
    x.datum = .nan ∨ ∃ negative, x.datum = .infinite negative := by
  have field : x.exponentField = 2047 := not_not.mp (of_decide_eq_false without)
  unfold datum
  rw [if_pos field]
  split
  · exact .inr ⟨_, rfl⟩
  · exact .inl rfl

theorem twoTo_eq (n : Nat) : twoTo n = 2 ^ n := rfl

/-- A power of two as the quotient of two, one of which is one. -/
theorem zpow_sub_eq (n m : Nat) : (2 : ℚ) ^ ((n : ℤ) - m) = 2 ^ (n - m) / 2 ^ (m - n) := by
  obtain less | more := Nat.le_total n m
  · obtain ⟨k, rfl⟩ := Nat.exists_eq_add_of_le less
    simp
  · obtain ⟨k, rfl⟩ := Nat.exists_eq_add_of_le more
    simp

theorem magnitude_eq (x : Binary64) : x.magnitude = x.numerator / x.denominator := by
  -- both forms count units of the fraction's last bit
  have units : x.magnitude = x.significand * 2 ^ ((x.power : ℤ) - unitPower) := by
    unfold magnitude significand power unitPower
    split
    · rename_i subnormal
      have apart : (-1022 : ℤ) = ((0 - 1 : Nat) - (1074 : Nat)) + (52 : Nat) := by omega
      rw [subnormal, apart, zpow_add₀ two_ne_zero, zpow_natCast]
      field_simp
    · rename_i normal
      obtain ⟨e, field⟩ := Nat.exists_eq_succ_of_ne_zero normal
      have apart : ((e + 1 : Nat) : ℤ) - 1023 = (e - (1074 : Nat)) + (52 : Nat) := by omega
      rw [field, Nat.succ_eq_add_one, Nat.add_sub_cancel, apart, zpow_add₀ two_ne_zero,
        zpow_natCast, twoTo_eq]
      push_cast
      field_simp
      ring
  rw [units, zpow_sub_eq, numerator, denominator, twoTo_eq, twoTo_eq]
  push_cast
  rw [mul_div_assoc]

theorem denominator_pos (x : Binary64) : 0 < x.denominator := Nat.two_pow_pos _

/-! ## Signs -/

theorem numerator_eq_zero_iff (x : Binary64) : x.numerator = 0 ↔ x.isZero = true := by
  have unit : twoTo (x.power - unitPower) ≠ 0 := (Nat.two_pow_pos _).ne'
  have leading : twoTo 52 ≠ 0 := (Nat.two_pow_pos _).ne'
  simp only [numerator, significand, isZero, Nat.mul_eq_zero, unit, or_false, Bool.and_eq_true,
    decide_eq_true_eq]
  split <;> simp_all

theorem magnitude_nonneg (x : Binary64) : 0 ≤ x.magnitude := by
  rw [magnitude_eq]
  positivity

theorem magnitude_eq_zero_iff (x : Binary64) : x.magnitude = 0 ↔ x.isZero = true := by
  have divisor : (x.denominator : ℚ) ≠ 0 := by exact_mod_cast x.denominator_pos.ne'
  rw [magnitude_eq, div_eq_zero_iff, or_iff_left divisor, Nat.cast_eq_zero, numerator_eq_zero_iff]

theorem magnitude_pos_iff (x : Binary64) : 0 < x.magnitude ↔ x.isZero = false := by
  rw [lt_iff_le_and_ne, and_iff_right x.magnitude_nonneg, ne_comm, ne_eq, magnitude_eq_zero_iff,
    Bool.not_eq_true]

theorem isZero_iff (x : Binary64) : x.isZero = true ↔ x.value = 0 := by
  rw [value, ← magnitude_eq_zero_iff]
  split <;> simp

variable {x : Binary64}

theorem not_isNan (finite : x.isFinite = true) : x.isNan = false := by
  simp_all [isFinite, isNan]

theorem isPositive_iff (finite : x.isFinite = true) : x.isPositive = true ↔ 0 < x.value := by
  rw [isPositive, not_isNan finite, value]
  split <;> rename_i sign <;> simp [sign, magnitude_pos_iff, magnitude_nonneg]

theorem isBelowZero_iff (finite : x.isFinite = true) : x.isBelowZero = true ↔ x.value < 0 := by
  rw [isBelowZero, not_isNan finite, value]
  split <;> rename_i sign <;> simp [sign, magnitude_pos_iff, magnitude_nonneg]

theorem isAtMostZero_iff (finite : x.isFinite = true) : x.isAtMostZero = true ↔ x.value ≤ 0 := by
  rw [isAtMostZero, Bool.or_eq_true, isZero_iff, isBelowZero_iff finite, le_iff_eq_or_lt]

/-- A value that is not below zero is the quotient, the sign of a zero making no difference. -/
theorem value_eq (notBelow : 0 ≤ x.value) : x.value = x.numerator / x.denominator := by
  rw [← magnitude_eq]
  unfold value at *
  have sign := x.magnitude_nonneg
  split at notBelow
  · rw [if_pos ‹_›]; linarith
  · rw [if_neg ‹_›]

end Binary64

end Lifeline
