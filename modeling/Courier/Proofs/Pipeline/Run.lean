/-
# Courier.Proofs.Pipeline.Run -- what a protected call does

A call that the breaker turns away invokes nothing.  One that it lets through makes
the attempts of the retry loop, where an attempt that ran past its limit counts as one
that failed (`Operation.outcome`), and its answer is the last attempt's, with the
number of attempts that were made.  That number is the number of invocations.

An attempt that is over in time ends as its work does (`outcome_of_finishes`), and one that
is not with the error that stands for a timeout (`outcome_of_cut`).
-/
import Courier.Pipeline
import Courier.Proofs.Retry.Run

namespace Courier.Pipeline

set_option autoImplicit false

open Retry (LastAttempt)

variable {ε α : Type}

/-- How an attempt ends, by invocation: cut off at the limit, or as the work does. -/
def Operation.outcome (operation : Operation ε α) (c : Config) (k : Nat) : Except ε α :=
  (Timeout.attempt operation.timedOut c.timeout (operation.work k)).outcome

/-- The answer of a call that ends after `n` attempts. -/
def answer (n : Nat) : Except ε α → Except (Failure ε) (Completed α)
  | .ok value => .ok ⟨value, n⟩
  | .error error => .error (.failed n error)

section Outcome

variable {c : Config} {operation : Operation ε α}

/-- An attempt that is over in time ends as its work does. -/
theorem outcome_of_finishes {k : Nat}
    (inTime : Timeout.finishes c.timeout (operation.work k) = true) :
    operation.outcome c k = (operation.work k).value := by
  unfold Timeout.finishes at inTime
  unfold Operation.outcome Timeout.attempt Timeout.race
  cases needs : (operation.work k).needs with
  | none => simp [needs] at inTime
  | some millis =>
      have within : millis ≤ c.timeout.timerMillis := by simpa [needs] using inTime
      simp only [if_pos within]

/-- An attempt that runs past the limit ends with the error that stands for a timeout. -/
theorem outcome_of_cut {k : Nat}
    (cut : Timeout.finishes c.timeout (operation.work k) = false) :
    operation.outcome c k = .error (operation.timedOut ⟨c.timeout⟩) := by
  unfold Timeout.finishes at cut
  unfold Operation.outcome Timeout.attempt Timeout.race
  cases needs : (operation.work k).needs with
  | none => rfl
  | some millis =>
      have beyond : ¬ millis ≤ c.timeout.timerMillis := by simpa [needs] using cut
      simp only [if_neg beyond]

end Outcome

variable (c : Config) (jitter : Retry.Jitter) (operation : Operation ε α)

theorem attempts_spec :
    ∃ n, LastAttempt operation.shouldRetry (operation.outcome c) c.policy.attempts n ∧
      (attempts c jitter operation).Shows c.policy jitter
        (fun k => Timeout.attempt operation.timedOut c.timeout (operation.work k)) n := by
  obtain ⟨n, lastOne⟩ := Retry.exists_lastAttempt c.policy operation.shouldRetry
    fun k => Timeout.attempt operation.timedOut c.timeout (operation.work k)
  exact ⟨n, lastOne, Retry.runIf_shows c.policy jitter operation.shouldRetry _ lastOne⟩

variable {clock : Readings} {s : State}

theorem run_of_rejected (rejected : (s.breaker.enter c.circuit clock.started).permit = none) :
    (run c jitter operation clock s).calls = 0 ∧
      (run c jitter operation clock s).outcome = .error .circuitOpen := by
  unfold run
  simp only [rejected, and_self]

theorem run_of_admitted {permit : Circuit.Permit}
    (admitted : (s.breaker.enter c.circuit clock.started).permit = some permit) :
    ∃ n, LastAttempt operation.shouldRetry (operation.outcome c) c.policy.attempts n ∧
      (run c jitter operation clock s).calls = n ∧
      (run c jitter operation clock s).outcome = answer n (operation.outcome c (n - 1)) := by
  obtain ⟨n, lastOne, shows⟩ := attempts_spec c jitter operation
  have outcome : (attempts c jitter operation).outcome = operation.outcome c (n - 1) :=
    shows.outcome
  refine ⟨n, lastOne, ?_, ?_⟩
  · unfold run
    simp only [admitted, shows.calls]
  · unfold run
    simp only [admitted, shows.calls, outcome]
    cases operation.outcome c (n - 1) with
    | ok value => rfl
    | error error => rfl

end Courier.Pipeline
