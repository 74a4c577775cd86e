/-
# Courier.Proofs.Retry.Jitter -- how far a delay is moved at random

A delay is moved by less than a quarter of itself, up or down, so it stays within a quarter of
where it was: a quarter less at the least, a quarter more at the most, and never longer than
the longest duration.  A delay of less than four nanoseconds has no quarter and stays as it
is.

The shift is drawn from a range whose width is the quarter's nanoseconds in 64 bits.  A wide
quarter loses its upper bits there, which only makes the range narrower (`width_le`), unless
nothing is left of it: a quarter that is a whole multiple of `2 ^ 64` nanoseconds and not zero
has an empty range, and the delay cannot be moved at all.  Up to `2 ^ 66` nanoseconds, some
two thousand years, no delay is like that (`drawable_of_lt`).
-/
import Courier.Proofs.Retry.Run

namespace Courier

set_option autoImplicit false

/-- A sum of durations is cut off at the longest one. -/
theorem Duration.nanos_add (a b : Duration) :
    (a.add b).nanos = Min.min (a.nanos + b.nanos) Duration.longest.nanos := by
  have longest : Duration.longest.nanos + 1 = limit := rfl
  unfold add ofNanos
  split
  · rename_i short
    change a.nanos + b.nanos < limit at short
    change a.nanos + b.nanos = _
    omega
  · rename_i long
    change ¬ a.nanos + b.nanos < limit at long
    omega

theorem Duration.nanos_sub (a b : Duration) : (a.sub b).nanos = a.nanos - b.nanos := rfl

theorem Duration.nanos_quarter (d : Duration) : d.quarter.nanos = d.nanos / 4 := rfl

namespace Retry.Jitter

variable {delay : Duration}

/-- A delay that is moved by `shift` nanoseconds. -/
def shifted (delay : Duration) (up : Bool) (shift : Nat) : Duration :=
  if up then delay.add (.ofNanos shift) else delay.sub (.ofNanos shift)

theorem width_le (delay : Duration) : width delay ≤ delay.nanos / 4 := by
  rw [width, Duration.nanos_quarter]
  exact Nat.mod_le _ _

/-- No delay up to `2 ^ 66` nanoseconds has an empty range. -/
theorem drawable_of_lt (short : delay.nanos < 4 * UInt64.size) : drawable delay = true := by
  have narrow : delay.quarter.nanos < UInt64.size := by
    rw [Duration.nanos_quarter]
    omega
  rw [drawable_eq_true_iff, Nat.mod_eq_of_lt narrow]
  exact Nat.eq_zero_or_pos _ |>.imp_right Nat.pos_iff_ne_zero.mp

/-- A delay without a quarter stays as it is. -/
theorem symmetric_of_small (small : delay.nanos / 4 = 0) (draw : Draw) :
    symmetric draw delay = .ok delay :=
  if_pos small

theorem symmetric_of_empty (quarter : delay.quarter.nanos ≠ 0) (empty : width delay = 0)
    (draw : Draw) : symmetric draw delay = .error .emptyRange := by
  rw [symmetric, if_neg quarter, if_pos empty]

/-- Any other delay is moved by a number below the width. -/
theorem symmetric_of_wide (wide : width delay ≠ 0) (draw : Draw) :
    symmetric draw delay = .ok (shifted delay draw.up (draw.number % width delay)) := by
  have quarter : delay.quarter.nanos ≠ 0 := by
    intro none
    rw [width, none] at wide
    exact wide rfl
  rw [symmetric, if_neg quarter, if_neg wide, shifted]

theorem symmetric_eq_ok_iff (draw : Draw) (delay : Duration) :
    (∃ moved, symmetric draw delay = .ok moved) ↔ drawable delay = true := by
  rw [← symmetric_isOk draw]
  cases symmetric draw delay with
  | ok moved => exact iff_of_true ⟨moved, rfl⟩ rfl
  | error error => exact iff_of_false (fun ⟨_, same⟩ => nomatch same) Bool.false_ne_true

theorem symmetric_eq_error_iff (draw : Draw) (delay : Duration) :
    symmetric draw delay = .error .emptyRange ↔
      delay.quarter.nanos ≠ 0 ∧ delay.quarter.nanos % UInt64.size = 0 := by
  rw [← drawable_eq_false_iff, ← symmetric_isOk draw]
  cases symmetric draw delay with
  | ok moved => exact iff_of_false (fun same => nomatch same) (fun same => nomatch same)
  | error error => cases error; exact iff_of_true rfl rfl

/-! ## Within a quarter -/

/-- A shift below a quarter keeps a delay within a quarter of where it was. -/
theorem shifted_bounds {shift : Nat} (within : shift ≤ delay.nanos / 4) (up : Bool) :
    delay.nanos - delay.nanos / 4 ≤ (shifted delay up shift).nanos ∧
      (shifted delay up shift).nanos ≤
        min (delay.nanos + delay.nanos / 4) Duration.longest.nanos := by
  have longest : delay.nanos ≤ Duration.longest.nanos := Nat.le_pred_of_lt delay.nanos_lt
  have same : (Duration.ofNanos shift).nanos = shift := by
    refine Duration.nanos_ofNanos (Nat.lt_of_le_of_lt ?_ delay.nanos_lt)
    omega
  cases up with
  | true =>
      rw [shifted, if_pos rfl, Duration.nanos_add, same]
      omega
  | false =>
      rw [shifted, if_neg Bool.false_ne_true, Duration.nanos_sub, same]
      omega

/-- A delay that is moved stays within a quarter of where it was. -/
theorem symmetric_bounds {draw : Draw} {moved : Duration}
    (answer : symmetric draw delay = .ok moved) :
    delay.nanos - delay.nanos / 4 ≤ moved.nanos ∧
      moved.nanos ≤ min (delay.nanos + delay.nanos / 4) Duration.longest.nanos := by
  by_cases empty : width delay = 0
  · by_cases small : delay.nanos / 4 = 0
    · rw [symmetric_of_small small] at answer
      cases answer
      have longest : delay.nanos ≤ Duration.longest.nanos := Nat.le_pred_of_lt delay.nanos_lt
      omega
    · rw [symmetric_of_empty small empty] at answer
      cases answer
  · rw [symmetric_of_wide empty] at answer
    cases answer
    have below := Nat.mod_lt draw.number (Nat.pos_of_ne_zero empty)
    exact shifted_bounds (Nat.le_trans (Nat.le_of_lt below) (width_le delay)) draw.up

/-- Every shift below the width is drawn by some answer. -/
theorem symmetric_of_shift {shift : Nat} (below : shift < width delay) (up : Bool) :
    symmetric ⟨shift, up⟩ delay = .ok (shifted delay up shift) := by
  have wide : width delay ≠ 0 := Nat.ne_of_gt (Nat.lt_of_le_of_lt (Nat.zero_le _) below)
  have same : shift % width delay = shift := Nat.mod_eq_of_lt below
  rw [symmetric_of_wide wide]
  simp only [same]

/-- **A delay stays within a quarter of where it was.**  For any delay and whatever a random
source answers: if the delay is moved, it ends up between a quarter less and a quarter more,
the latter cut off at the longest duration, and every shift below the width of its range is
drawn by some answer, up and down; a delay without a quarter is not moved.

The only delays with no answer at all are those whose quarter is a whole multiple of `2 ^ 64`
nanoseconds and not zero, and none of them is shorter than `2 ^ 66` nanoseconds. -/
theorem symmetric_within_quarter (delay : Duration) :
    (∀ draw moved, symmetric draw delay = .ok moved →
      delay.nanos - delay.nanos / 4 ≤ moved.nanos ∧
        moved.nanos ≤ min (delay.nanos + delay.nanos / 4) Duration.longest.nanos) ∧
    (∀ shift < (delay.nanos / 4) % UInt64.size, ∀ up, ∃ draw,
      symmetric draw delay = .ok (shifted delay up shift)) ∧
    (delay.nanos / 4 = 0 → ∀ draw, symmetric draw delay = .ok delay) ∧
    (∀ draw, (∃ moved, symmetric draw delay = .ok moved) ↔
      ¬ (delay.nanos / 4 ≠ 0 ∧ (delay.nanos / 4) % UInt64.size = 0)) ∧
    (∀ draw, symmetric draw delay = .error .emptyRange ↔
      delay.nanos / 4 ≠ 0 ∧ (delay.nanos / 4) % UInt64.size = 0) ∧
    (delay.nanos / 4 ≠ 0 → (delay.nanos / 4) % UInt64.size = 0 →
      4 * UInt64.size ≤ delay.nanos) := by
  refine ⟨fun draw moved answer => symmetric_bounds answer, fun shift below up =>
    ⟨_, symmetric_of_shift below up⟩, symmetric_of_small, fun draw => ?_,
    fun draw => symmetric_eq_error_iff draw delay, fun quarter empty => ?_⟩
  · rw [symmetric_eq_ok_iff, ← Bool.not_eq_false]
    exact not_congr (drawable_eq_false_iff delay)
  · by_contra short
    have drawable := drawable_of_lt (Nat.lt_of_not_le short)
    rw [(drawable_eq_false_iff delay).mpr ⟨quarter, empty⟩] at drawable
    cases drawable

/-- The shortest delay that cannot be moved. -/
example : symmetric ⟨0, true⟩ (.ofNanos (4 * UInt64.size)) = .error .emptyRange := by decide

end Retry.Jitter

end Courier
