/-
What a floating-point number is worth.

A finite number is a whole multiple of two to the power -1074, and `value` is that multiple as an
exact rational number.  Infinity has no such value; what stands for it lies beyond the values of
all finite numbers (`abs_value_lt`), so numbers compare as their values do.

`clamped` is the value moved to the nearer end of the range from 0 to 1 if it lies outside, and the
share that is computed with whole numbers only is exactly that (`share?_eq_some`).
-/
import Mathlib.Algebra.Order.Ring.Rat
import Mathlib.Data.Rat.Floor
import Mathlib.Tactic.Positivity
import Lifecast.Binary64.Basic

namespace Lifecast

namespace Binary64

/-- The exact value of a number. -/
def value (x : Binary64) : ℚ :=
  if x.isNegative then -(x.magnitude / unit) else x.magnitude / unit

/-- The value moved to the nearer end of the range from 0 to 1 if it lies outside. -/
def clamped (x : Binary64) : ℚ :=
  max 0 (min 1 x.value)

theorem two_pow_pos (n : Nat) : 0 < Nat.pow 2 n :=
  Nat.two_pow_pos n

theorem unit_pos : (0 : ℚ) < unit := by
  have hunit : 0 < unit := by
    unfold unit
    apply two_pow_pos
  exact Nat.cast_pos.mpr hunit

theorem size_nonneg (x : Binary64) : (0 : ℚ) ≤ x.magnitude / unit :=
  div_nonneg (Nat.cast_nonneg _) unit_pos.le

/-! ### Infinity -/

/-- Of two numbers the one with the greater exponent is larger, whatever the fractions are. -/
theorem magnitude_lt {x y : Binary64} (h : x.exponent < y.exponent) :
    x.magnitude < y.magnitude := by
  have hfraction : x.fraction < Nat.pow 2 52 := Nat.mod_lt _ (by decide)
  have hpow := two_pow_pos (y.exponent - 1)
  unfold magnitude
  rw [if_neg (show y.exponent ≠ 0 by omega)]
  split
  · calc x.fraction < Nat.pow 2 52 + y.fraction := by omega
      _ ≤ (Nat.pow 2 52 + y.fraction) * Nat.pow 2 (y.exponent - 1) := Nat.le_mul_of_pos_right _ hpow
  · have hdouble : Nat.pow 2 (x.exponent - 1 + 1) ≤ Nat.pow 2 (y.exponent - 1) :=
      Nat.pow_le_pow_right (by decide) (by omega)
    calc (Nat.pow 2 52 + x.fraction) * Nat.pow 2 (x.exponent - 1)
        < (Nat.pow 2 52 * 2) * Nat.pow 2 (x.exponent - 1) :=
          Nat.mul_lt_mul_of_pos_right (by omega) (two_pow_pos _)
      _ = Nat.pow 2 52 * (Nat.pow 2 (x.exponent - 1) * 2) := by rw [Nat.mul_assoc, Nat.mul_comm 2]
      _ ≤ (Nat.pow 2 52 + y.fraction) * Nat.pow 2 (y.exponent - 1) :=
          Nat.mul_le_mul (Nat.le_add_right _ _) hdouble

theorem abs_value (x : Binary64) : |x.value| = x.magnitude / unit := by
  unfold value
  split
  · rw [abs_neg, abs_of_nonneg x.size_nonneg]
  · exact abs_of_nonneg x.size_nonneg

/-- Infinity lies beyond all finite numbers, on either side. -/
theorem abs_value_lt {x y : Binary64} (hx : x.exponent ≠ 2047) (hy : y.isInfinite = true) :
    |x.value| < |y.value| := by
  have hexponent : x.exponent < 2048 := Nat.mod_lt _ (by decide)
  have hinfinite : y.exponent = 2047 := by
    simp only [isInfinite, Bool.and_eq_true, beq_iff_eq] at hy
    exact hy.1
  rw [abs_value, abs_value]
  refine div_lt_div_of_pos_right ?_ unit_pos
  exact Nat.cast_lt.mpr (magnitude_lt (by omega))

/-! ### Clamping -/

theorem clamped_mono {x y : Binary64} (h : x.value ≤ y.value) : x.clamped ≤ y.clamped :=
  max_le_max le_rfl (min_le_min le_rfl h)

theorem clamped_le_one (x : Binary64) : x.clamped ≤ 1 :=
  max_le zero_le_one (min_le_left _ _)

theorem clamped_of_nonpos {x : Binary64} (h : x.value ≤ 0) : x.clamped = 0 :=
  max_eq_left ((min_le_right _ _).trans h)

theorem clamped_of_one_le {x : Binary64} (h : 1 ≤ x.value) : x.clamped = 1 := by
  unfold clamped
  rw [min_eq_left h, max_eq_right zero_le_one]

/-- What is no number has no share. -/
theorem share?_of_isNaN {x : Binary64} (h : x.isNaN = true) : x.share? = none :=
  if_pos h

/-- A share is the clamped value in units. -/
theorem share?_eq_some {x : Binary64} (h : x.isNaN = false) :
    ∃ share : Nat, x.share? = some share ∧ x.clamped = share / unit := by
  unfold share? clamped value
  rw [h]
  cases x.isNegative with
  | true =>
      refine ⟨0, rfl, ?_⟩
      rw [if_pos rfl, Nat.cast_zero, zero_div]
      exact max_eq_left ((min_le_right _ _).trans (neg_nonpos.mpr x.size_nonneg))
  | false =>
      refine ⟨min x.magnitude unit, rfl, ?_⟩
      rw [if_neg (by decide), max_eq_right (le_min zero_le_one x.size_nonneg), Nat.cast_min,
        min_comm, ← min_div_div_right unit_pos.le, div_self unit_pos.ne']

end Binary64

end Lifecast
