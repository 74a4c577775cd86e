/-
# Courier.Proofs.Binary64.Accuracy -- errors of a few roundings in a row

One rounding changes a value by at most one part in `2 ^ 53`, unless the value is so small that
representable magnitudes lie too far apart for that.  `Within k exact approx` says that `approx`
is what `k` such changes can make of `exact`: errors multiply along a chain of operations
(`Within.trans`), a sum of values inherits the error of its parts (`Within.add`), and a known
factor changes nothing (`Within.mul`).

Values too small for this are excluded by being `Normal`: zero, which is exact, or at least
`leadingBit` units.
-/
import Courier.Proofs.Binary64.Rounding
import Mathlib.Algebra.Order.Field.Rat
import Mathlib.Data.Rat.Cast.Order
import Mathlib.Tactic.FieldSimp
import Mathlib.Tactic.NormNum
import Mathlib.Tactic.Positivity

namespace Courier.Binary64

set_option autoImplicit false

/-- The part of a value that one rounding may add or take away. -/
def roundoff : ℚ := 1 / 9007199254740992

/-- What `k` roundings in a row can make of a value. -/
def Within (k : Nat) (exact approx : ℚ) : Prop :=
  exact * (1 - roundoff) ^ k ≤ approx ∧ approx ≤ exact * (1 + roundoff) ^ k

/-- A magnitude that is zero or large enough for a significand of 53 bits. -/
def Normal (num den : Nat) : Prop := num = 0 ∨ leadingBit * den ≤ num

variable {num den j k : Nat} {x y z : ℚ}

/-! ## Chains of roundings -/

theorem Within.add (first : Within k x y) {x' y' : ℚ} (second : Within k x' y') :
    Within k (x + x') (y + y') := by
  obtain ⟨low, high⟩ := first
  obtain ⟨low', high'⟩ := second
  constructor
  · rw [add_mul]
    exact add_le_add low low'
  · rw [add_mul]
    exact add_le_add high high'

theorem Within.mul (within : Within k x y) (factor : ℚ) (nonneg : 0 ≤ factor) :
    Within k (x * factor) (y * factor) := by
  obtain ⟨low, high⟩ := within
  constructor
  · rw [mul_right_comm]
    exact mul_le_mul_of_nonneg_right low nonneg
  · rw [mul_right_comm]
    exact mul_le_mul_of_nonneg_right high nonneg

theorem Within.trans (first : Within j x y) (second : Within k y z) : Within (j + k) x z := by
  obtain ⟨low, high⟩ := first
  obtain ⟨low', high'⟩ := second
  have down : (0 : ℚ) ≤ (1 - roundoff) ^ k := pow_nonneg (by norm_num [roundoff]) k
  have up : (0 : ℚ) ≤ (1 + roundoff) ^ k := pow_nonneg (by norm_num [roundoff]) k
  constructor
  · calc x * (1 - roundoff) ^ (j + k)
        = x * (1 - roundoff) ^ j * (1 - roundoff) ^ k := by rw [pow_add, mul_assoc]
      _ ≤ y * (1 - roundoff) ^ k := mul_le_mul_of_nonneg_right low down
      _ ≤ z := low'
  · calc z ≤ y * (1 + roundoff) ^ k := high'
      _ ≤ x * (1 + roundoff) ^ j * (1 + roundoff) ^ k := mul_le_mul_of_nonneg_right high up
      _ = x * (1 + roundoff) ^ (j + k) := by rw [pow_add, mul_assoc]

/-- Another rounding may change nothing. -/
theorem Within.weaken (within : Within k x y) (nonneg : 0 ≤ x) : Within (k + 1) x y := by
  obtain ⟨low, high⟩ := within
  have down : x * (1 - roundoff) ^ (k + 1) ≤ x * (1 - roundoff) ^ k :=
    mul_le_mul_of_nonneg_left
      (pow_le_pow_of_le_one (by norm_num [roundoff]) (by norm_num [roundoff]) k.le_succ) nonneg
  have up : x * (1 + roundoff) ^ k ≤ x * (1 + roundoff) ^ (k + 1) :=
    mul_le_mul_of_nonneg_left (pow_le_pow_right₀ (by norm_num [roundoff]) k.le_succ) nonneg
  exact ⟨down.trans low, high.trans up⟩

/-! ## One rounding -/

theorem normal_nearest (positive : 0 < den) (normal : Normal num den) :
    Normal (nearest num den) 1 := by
  rcases normal with rfl | large
  · exact .inl (nearest_of_zero positive)
  · right
    rw [Nat.mul_one]
    exact le_nearest positive (representable_of_lt (by decide)) large

theorem Normal.add {a b : Nat} (first : Normal a 1) (second : Normal b 1) :
    Normal (a + b) 1 := by
  unfold Normal at *
  omega

theorem Normal.mul {a factor : Nat} (normal : Normal a 1) (positive : 1 ≤ factor) (den : Nat) :
    Normal (a * (factor * den)) den := by
  rcases normal with rfl | large
  · exact .inl (Nat.zero_mul _)
  · right
    rw [← Nat.mul_assoc]
    refine Nat.mul_le_mul_right den ?_
    calc leadingBit = leadingBit * 1 * 1 := rfl
      _ ≤ a * factor := Nat.mul_le_mul large positive

theorem within_nearest (positive : 0 < den) (normal : Normal num den) :
    Within 1 ((num : ℚ) / den) (nearest num den) := by
  have den_pos : (0 : ℚ) < den := by exact_mod_cast positive
  rcases normal with rfl | large
  · rw [nearest_of_zero positive]
    constructor <;> simp
  · obtain ⟨low, high⟩ := nearest_error positive large
    have low' : (2 * leadingBit * num : ℚ) ≤ 2 * leadingBit * (nearest num den * den) + num := by
      exact_mod_cast low
    have high' : (2 * leadingBit * (nearest num den * den) : ℚ) ≤
        2 * leadingBit * num + num := by
      exact_mod_cast high
    norm_num [leadingBit] at low' high'
    constructor
    · rw [pow_one, div_mul_eq_mul_div, div_le_iff₀ den_pos]
      unfold roundoff
      linarith
    · rw [pow_one, div_mul_eq_mul_div, le_div_iff₀ den_pos]
      unfold roundoff
      linarith

end Courier.Binary64
