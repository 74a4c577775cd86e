/-
# Courier.Proofs.Retry.Timeline -- when a run makes its attempts

A run that is left alone makes its attempts at fixed moments: attempt `k`, counted from
zero, is started at `started k` and over at `finished k`, and the pause after it ends when
the next attempt is started.  The moments add up from what the attempts take and the pauses
between them (`started_eq_sum`, `finished_eq_sum`), and the delays behind these pauses are
those of the policy, one after the other (`Policy.delays_eq_map`).
-/
import Courier.Retry
import Mathlib.Algebra.BigOperators.Group.Finset.Basic
import Mathlib.Order.Monotone.Basic

namespace Courier.Retry

set_option autoImplicit false

variable {ε α : Type}

/-! ## The delays -/

/-- What the delay sequence stands at when attempt `k`, counted from zero, is made. -/
def Policy.standing (policy : Policy) : Nat → Duration
  | 0 => policy.initialDelay
  | k + 1 => policy.delay k

theorem Policy.next_standing (policy : Policy) (k : Nat) :
    policy.next (policy.standing k) = policy.delay k := by
  cases k with
  | zero => rfl
  | succ k => rfl

theorem Policy.delaysFrom_standing (policy : Policy) (made count : Nat) :
    policy.delaysFrom (policy.standing made) count =
      (List.range count).map fun i => policy.delay (made + i) := by
  induction count generalizing made with
  | zero => rfl
  | succ count ih =>
      have rest := ih (made + 1)
      rw [Policy.standing] at rest
      rw [Policy.delaysFrom, policy.next_standing, rest, List.range_succ_eq_map, List.map_cons,
        List.map_map]
      refine congrArg₂ List.cons rfl (List.map_congr_left fun i _ => ?_)
      rw [Function.comp_apply, Nat.succ_eq_add_one, Nat.add_right_comm, Nat.add_assoc]

theorem Policy.delays_eq_map (policy : Policy) (count : Nat) :
    policy.delays count = (List.range count).map policy.delay := by
  have delays := policy.delaysFrom_standing 0 count
  simp only [Nat.zero_add] at delays
  exact delays

/-! ## The moments -/

/-- How long the run sleeps after attempt `k`, if it goes on. -/
def pause (policy : Policy) (jitter : Jitter) (k : Nat) : Nat :=
  (jitter k (policy.delay k)).sleepMillis

/-- Timer reading at which attempt `k`, counted from zero, is started. -/
def started (policy : Policy) (jitter : Jitter) (operation : Nat → Attempt ε α) : Nat → Nat
  | 0 => 0
  | k + 1 => started policy jitter operation k + (operation k).takes + pause policy jitter k

/-- Timer reading at which attempt `k` is over. -/
def finished (policy : Policy) (jitter : Jitter) (operation : Nat → Attempt ε α) (k : Nat) : Nat :=
  started policy jitter operation k + (operation k).takes

/-- Timer reading from which nothing is under way until attempt `k` is started. -/
def idleFrom (policy : Policy) (jitter : Jitter) (operation : Nat → Attempt ε α) : Nat → Nat
  | 0 => 0
  | k + 1 => finished policy jitter operation k

section Timeline

variable (policy : Policy) (jitter : Jitter) (operation : Nat → Attempt ε α)

theorem started_le_finished (k : Nat) :
    started policy jitter operation k ≤ finished policy jitter operation k :=
  Nat.le_add_right _ _

theorem finished_le_started_succ (k : Nat) :
    finished policy jitter operation k ≤ started policy jitter operation (k + 1) :=
  Nat.le_add_right _ _

theorem started_mono : Monotone (started policy jitter operation) :=
  monotone_nat_of_le_succ fun k =>
    Nat.le_trans (started_le_finished policy jitter operation k)
      (finished_le_started_succ policy jitter operation k)

theorem started_eq_sum (k : Nat) :
    started policy jitter operation k =
      ∑ i ∈ Finset.range k, (operation i).takes + ∑ i ∈ Finset.range k, pause policy jitter i := by
  induction k with
  | zero => rfl
  | succ k ih =>
      rw [started, ih, Finset.sum_range_succ, Finset.sum_range_succ]
      omega

/-- By the end of an attempt every attempt up to it has run, and every pause before it. -/
theorem finished_eq_sum {n : Nat} (positive : 1 ≤ n) :
    finished policy jitter operation (n - 1) =
      ∑ i ∈ Finset.range n, (operation i).takes +
        ∑ i ∈ Finset.range (n - 1), pause policy jitter i := by
  obtain ⟨k, rfl⟩ := Nat.exists_eq_add_of_le' positive
  rw [Nat.add_sub_cancel, finished, started_eq_sum, Finset.sum_range_succ]
  omega

end Timeline

end Courier.Retry
