/-
# Courier.Proofs.Retry.Attempts -- how many attempts a run makes

A run that is not cancelled goes on as long as attempts fail with errors worth
retrying and attempts are left.  `LastAttempt` says so of a number of attempts without
mentioning the loop: nothing before the last attempt ended the run, and the last one did
or used up the limit.  There is one such number (`LastAttempt.unique`): the least one at
which something ends the run (`LastAttempt.isLeast`).
-/
import Courier.Retry
import Mathlib.Order.Bounds.Basic

namespace Courier.Retry

set_option autoImplicit false

variable {ε α : Type} {shouldRetry : ε → Bool} {outcomes : Nat → Except ε α} {most n : Nat}

/-- Whether an attempt that ends like this may be followed by another. -/
def goesOn (shouldRetry : ε → Bool) : Except ε α → Bool
  | .ok _ => false
  | .error error => shouldRetry error

/-- The attempts of a run with at most `most` of them are the first `n`, where
`outcomes` says how each would end, counted from zero. -/
structure LastAttempt (shouldRetry : ε → Bool) (outcomes : Nat → Except ε α) (most n : Nat) :
    Prop where
  positive : 1 ≤ n
  capped : n ≤ most
  earlier : ∀ k, k + 1 < n → goesOn shouldRetry (outcomes k) = true
  last : goesOn shouldRetry (outcomes (n - 1)) = false ∨ n = most

namespace LastAttempt

theorem isLeast (lastOne : LastAttempt shouldRetry outcomes most n) :
    IsLeast {k | 1 ≤ k ∧ (goesOn shouldRetry (outcomes (k - 1)) = false ∨ k = most)} n := by
  refine ⟨⟨lastOne.positive, lastOne.last⟩, ?_⟩
  rintro k ⟨positive, stopped | exhausted⟩
  · -- an earlier attempt than the last one went on
    by_contra longer
    have went := lastOne.earlier (k - 1) (by omega)
    rw [stopped] at went
    exact Bool.false_ne_true went
  · rw [exhausted]
    exact lastOne.capped

theorem unique {m : Nat} (one : LastAttempt shouldRetry outcomes most n)
    (other : LastAttempt shouldRetry outcomes most m) : n = m :=
  one.isLeast.unique other.isLeast

/-- Some attempt of a run succeeded just when the last one did. -/
theorem any_isOk (lastOne : LastAttempt shouldRetry outcomes most n) :
    (List.range n).any (fun k => (outcomes k).isOk) = (outcomes (n - 1)).isOk := by
  have positive := lastOne.positive
  cases last : (outcomes (n - 1)).isOk with
  | true => exact List.any_eq_true.mpr ⟨n - 1, List.mem_range.mpr (by omega), last⟩
  | false =>
      refine List.any_eq_false.mpr fun k member succeeded => ?_
      have before : k < n := List.mem_range.mp member
      rcases Nat.lt_or_ge (k + 1) n with early | late
      · have went := lastOne.earlier k early
        cases outcome : outcomes k with
        | ok value => simp [outcome, goesOn] at went
        | error error => simp [outcome, Except.isOk, Except.toBool] at succeeded
      · have same : k = n - 1 := by omega
        rw [same, last] at succeeded
        cases succeeded

end LastAttempt

namespace Policy

theorem attempts_eq (policy : Policy) : policy.attempts - 1 + 1 = policy.attempts :=
  Nat.sub_add_cancel (Nat.le_max_left 1 _)

theorem attempts_lt (policy : Policy) : policy.attempts < UInt32.size := by
  have bounded : policy.maxAttempts.toNat < UInt32.size := UInt32.toNat_lt policy.maxAttempts
  have one : 1 < UInt32.size := by decide
  exact Nat.max_lt.mpr ⟨one, bounded⟩

end Policy

end Courier.Retry
