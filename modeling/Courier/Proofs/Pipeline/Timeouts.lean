/-
# Courier.Proofs.Pipeline.Timeouts -- calls of which every attempt runs past the limit

Such a call fails with one error over and over, so what the predicate says of that error decides
how often it is tried: as often as the policy allows, or once (`run_of_alwaysCut`).

Deliveries judge errors by their kind, and then a timeout is worth another attempt.  The other way
to judge them is by their text, as `Transient` does; none of its words is in the text of a timeout,
and so a call that judges by text gives up after the first one (`timeouts_retried_by_kind`).
-/
import Courier.Proofs.Pipeline.OneCall
import Courier.Proofs.Transient

namespace Courier.Pipeline

set_option autoImplicit false

open Mail (DeliveryError)
open Retry (LastAttempt)
open Transient (timeoutTexts)

variable {ε α : Type} {c : Config} {operation : Operation ε α} {clock : Readings} {s : State}
  {describe : ε → String}

/-- Every attempt runs past the limit. -/
def AlwaysCut (c : Config) (operation : Operation ε α) : Prop :=
  ∀ k, Timeout.finishes c.timeout (operation.work k) = false

/-- The report of a call that failed `n` times with one error. -/
structure GaveUp (c : Config) (error : ε) (n : Nat) (report : Report ε α) : Prop where
  calls : report.calls = n
  outcome : report.outcome = .error (.failed n error)
  /-- It paused between them and not after the last. -/
  delays : report.delays = c.policy.delays (n - 1)

theorem lastAttempt_of_alwaysCut (cut : AlwaysCut c operation) :
    LastAttempt operation.shouldRetry (operation.outcome c) c.policy.attempts
      (if operation.shouldRetry (operation.timedOut ⟨c.timeout⟩) then c.policy.attempts else 1) := by
  have same (k : Nat) : Retry.goesOn operation.shouldRetry (operation.outcome c k) =
      operation.shouldRetry (operation.timedOut ⟨c.timeout⟩) := by
    rw [outcome_of_cut (cut k), Retry.goesOn]
  have positive : 1 ≤ c.policy.attempts := Nat.le_max_left 1 _
  split
  · rename_i retried
    exact ⟨positive, Nat.le_refl _, fun k _ => (same k).trans retried, .inr rfl⟩
  · rename_i final
    refine ⟨Nat.le_refl 1, positive, fun k early => ?_, .inl ?_⟩
    · omega
    · exact (same 0).trans (Bool.eq_false_iff.mpr final)

/-- A call of which every attempt runs past the limit makes all its attempts or one, as the
predicate has it. -/
theorem run_of_alwaysCut (jitter : Retry.Jitter) (admitted : Admitted c clock s)
    (cut : AlwaysCut c operation) :
    GaveUp c (operation.timedOut ⟨c.timeout⟩)
      (if operation.shouldRetry (operation.timedOut ⟨c.timeout⟩) then c.policy.attempts else 1)
      (run c jitter operation clock s) := by
  have lastOne := lastAttempt_of_alwaysCut cut
  obtain ⟨permit, given⟩ := Option.ne_none_iff_exists'.mp admitted
  obtain ⟨n, other, calls, outcome⟩ := run_of_admitted c jitter operation given
  obtain rfl := lastOne.unique other
  constructor
  case calls => exact calls
  case outcome =>
    rw [outcome, outcome_of_cut (cut _)]
    rfl
  case delays => rw [delays_of_admitted admitted lastOne, Retry.Policy.delays_eq_map]

/-! ## Two ways to judge an error -/

/-- The operation with another predicate. -/
def Operation.judging (operation : Operation ε α) (judge : ε → Bool) : Operation ε α :=
  { operation with shouldRetry := judge }

theorem run_judging (judge : ε → Bool) (jitter : Retry.Jitter) (admitted : Admitted c clock s)
    (cut : AlwaysCut c operation) :
    GaveUp c (operation.timedOut ⟨c.timeout⟩)
      (if judge (operation.timedOut ⟨c.timeout⟩) then c.policy.attempts else 1)
      (run c jitter (operation.judging judge) clock s) := by
  have stillCut : AlwaysCut c (operation.judging judge) := cut
  exact run_of_alwaysCut jitter admitted stillCut

/-- Whether an error is worth another attempt, by its text. -/
def byText (describe : ε → String) (error : ε) : Bool :=
  Transient.isTransientError (some (describe error))

/-- **Timeouts are worth another attempt by their kind, and not by their text.**  Of a limit of any
length, both texts that tell that it was reached are without the words that mark an error as
transient, while a delivery that ran into it counts as retryable.

So a call of which every attempt runs past the limit, and whose timeouts are told by one of these
texts, is given up after one attempt when it judges errors by text, without a pause; with a
predicate that accepts the timeout for what it is it makes all the attempts of its policy. -/
theorem timeouts_retried_by_kind (jitter : Retry.Jitter) (admitted : Admitted c clock s)
    (cut : AlwaysCut c operation)
    (told : describe (operation.timedOut ⟨c.timeout⟩) ∈ timeoutTexts c.timeout) :
    (∀ limit, (∀ message ∈ timeoutTexts limit, Transient.isTransient message = false) ∧
      (DeliveryError.timedOut limit).isRetryable = true) ∧
    GaveUp c (operation.timedOut ⟨c.timeout⟩) 1
      (run c jitter (operation.judging (byText describe)) clock s) ∧
    (∀ draws, runRandom c draws (operation.judging (byText describe)) clock s =
      .ok (run c (Retry.Jitter.random draws) (operation.judging (byText describe)) clock s)) ∧
    ∀ judge : ε → Bool, judge (operation.timedOut ⟨c.timeout⟩) = true →
      GaveUp c (operation.timedOut ⟨c.timeout⟩) c.policy.attempts
        (run c jitter (operation.judging judge) clock s) := by
  have final : byText describe (operation.timedOut ⟨c.timeout⟩) = false :=
    Transient.isTransient_of_timeoutTexts told
  have once (jitter : Retry.Jitter) : GaveUp c (operation.timedOut ⟨c.timeout⟩) 1
      (run c jitter (operation.judging (byText describe)) clock s) := by
    have gaveUp := run_judging (byText describe) jitter admitted cut
    rwa [if_neg (Bool.eq_false_iff.mp final)] at gaveUp
  refine ⟨?_, once jitter, ?_, ?_⟩
  · exact fun limit => ⟨fun _ member => Transient.isTransient_of_timeoutTexts member, rfl⟩
  · intro draws
    rw [runRandom, Retry.Jitter.drawn_eq_ok_iff, (once _).delays]
    intro delay member
    cases member
  · intro judge retried
    have gaveUp := run_judging judge jitter admitted cut
    rwa [if_pos retried] at gaveUp

/-- A delivery that never ends. -/
def hangingDelivery : Operation DeliveryError Unit where
  work _ := .hanging (.ok ())
  timedOut := DeliveryError.ofTimedOut
  shouldRetry := DeliveryError.isRetryable

/-- It is tried once or three times. -/
theorem timeouts_retried_by_kind_hanging :
    (run .smtp Retry.Jitter.unchanged (hangingDelivery.judging (byText DeliveryError.describe))
        (.still 0) .initial).calls = 1 ∧
      (run .smtp Retry.Jitter.unchanged (hangingDelivery.judging DeliveryError.isRetryable)
        (.still 0) .initial).calls = 3 := by
  have admitted : Admitted .smtp (.still 0) .initial := by
    unfold Admitted
    decide
  have cut : AlwaysCut .smtp hangingDelivery := fun _ => rfl
  have told : DeliveryError.describe (hangingDelivery.timedOut ⟨Config.smtp.timeout⟩) ∈
      timeoutTexts Config.smtp.timeout := List.mem_cons_of_mem _ List.mem_cons_self
  obtain ⟨-, once, -, often⟩ :=
    timeouts_retried_by_kind Retry.Jitter.unchanged admitted cut told
  exact ⟨once.calls, (often DeliveryError.isRetryable rfl).calls⟩

end Courier.Pipeline
