/-
# Courier.Proofs.Retry.Run -- a run to the end

A run that is not cancelled makes the attempts up to the last one, ends as that one does,
and draws one delay before each attempt but the first (`runIf_shows`).  The time it takes
is that of its attempts and of the pauses between them (`finished_eq_sum`): nothing is slept
after the last attempt.

A run with random jitter has the report of the jitter that was drawn, unless one of its
delays has nothing to draw from.  That is so when a quarter of the delay is a whole
multiple of `2 ^ 64` nanoseconds and not zero (`drawable_eq_false_iff`), and no number
drawn helps: the delay cannot be moved at all (`symmetric_isOk`).
-/
import Courier.Jitter
import Courier.Proofs.Retry.Cancellation

namespace Courier.Retry

set_option autoImplicit false

variable {ε α : Type}

/-! ## A run that is never cancelled -/

theorem not_cancelledBefore_never (starts : Nat → Nat) (k : Nat) :
    ¬ CancelledBefore .never starts k := by
  rintro (⟨t, moment, -⟩ | ⟨j, -, cancels⟩)
  · cases moment
  · cases cancels

section Never

variable (policy : Policy) (jitter : Jitter) (shouldRetry : ε → Bool)
variable (operation : Nat → Attempt ε α)

theorem exists_lastAttempt :
    ∃ n, LastAttempt shouldRetry (fun k => (operation k).outcome) policy.attempts n := by
  have ends := runCancellable_ends policy Jitter.unchanged shouldRetry operation .never
  generalize runCancellable policy Jitter.unchanged shouldRetry operation .never = trace at ends
  cases ends with
  | @settled n later lastOne free => exact ⟨n, lastOne⟩
  | @cancelled n t later short went free moment early =>
      exact (not_cancelledBefore_never _ n (cancelledBefore_of_known moment early)).elim

/-- A run that is never cancelled ends as its last attempt does. -/
theorem runCancellable_never {n : Nat}
    (lastOne : LastAttempt shouldRetry (fun k => (operation k).outcome) policy.attempts n) :
    runCancellable policy jitter shouldRetry operation .never =
      (Trace.ofLast (operation (n - 1)).outcome n
        (finished policy jitter operation (n - 1))).drawing (policy.delays (n - 1)) := by
  have ends := runCancellable_ends policy jitter shouldRetry operation .never
  exact ends.unique (.settled lastOne.positive lastOne fun k _ => not_cancelledBefore_never _ k)

end Never

theorem Trace.settled_eq {t : Trace ε α} (never : t.NeverCancelled) {outcome : Except ε α}
    (shown : t.outcome = outcome.mapError .operation) : t.settled never = outcome := by
  cases outcome with
  | ok value =>
      have ended : t.outcome = .ok value := shown
      unfold settled
      split
      · rename_i other ok
        exact (Except.ok.inj (ok.symm.trans ended)) ▸ rfl
      · rename_i error failed
        cases failed.symm.trans ended
      · rename_i attempts cancelled
        exact absurd cancelled (never attempts)
  | error error =>
      have ended : t.outcome = .error (.operation error) := shown
      unfold settled
      split
      · rename_i value ok
        cases ok.symm.trans ended
      · rename_i other failed
        cases failed.symm.trans ended
        rfl
      · rename_i attempts cancelled
        exact absurd cancelled (never attempts)

/-- What `runIf` shows of a run whose last attempt is number `n`. -/
structure Report.Shows (policy : Policy) (jitter : Jitter) (operation : Nat → Attempt ε α) (n : Nat)
    (report : Report ε α) : Prop where
  calls : report.calls = n
  outcome : report.outcome = (operation (n - 1)).outcome
  delays : report.delays = policy.delays (n - 1)
  elapsed : report.elapsed = finished policy jitter operation (n - 1)

/-- `runIf` makes the attempts up to the last one and answers with how it ended. -/
theorem runIf_shows (policy : Policy) (jitter : Jitter) (shouldRetry : ε → Bool)
    (operation : Nat → Attempt ε α) {n : Nat}
    (lastOne : LastAttempt shouldRetry (fun k => (operation k).outcome) policy.attempts n) :
    (runIf policy jitter shouldRetry operation).Shows policy jitter operation n := by
  have trace := runCancellable_never policy jitter shouldRetry operation lastOne
  exact {
    calls := (congrArg Trace.calls trace).trans (Trace.ofLast_calls ..)
    outcome := Trace.settled_eq _
      ((congrArg Trace.outcome trace).trans (Trace.ofLast_outcome ..))
    delays := congrArg Trace.delays trace
    elapsed := (congrArg Trace.elapsed trace).trans (Trace.ofLast_elapsed ..) }

/-- How the end of a run is counted. -/
def ending (success : Bool) : Metric.RetryEnding := if success then .success else .failure

/-- `runIf` records one ending, that of the last attempt, with the number of attempts. -/
theorem runIf_metrics (policy : Policy) (jitter : Jitter) (shouldRetry : ε → Bool)
    (operation : Nat → Attempt ε α) {n : Nat}
    (lastOne : LastAttempt shouldRetry (fun k => (operation k).outcome) policy.attempts n) :
    (runIf policy jitter shouldRetry operation).metrics =
      [.retried (ending (operation (n - 1)).outcome.isOk) n] := by
  have trace := runCancellable_never policy jitter shouldRetry operation lastOne
  have recorded := congrArg Trace.metrics trace
  cases last : (operation (n - 1)).outcome with
  | ok value =>
      rw [last] at recorded
      exact recorded
  | error error =>
      rw [last] at recorded
      exact recorded

/-! ## Random jitter -/

namespace Jitter

theorem drawable_eq_true_iff (delay : Duration) :
    drawable delay = true ↔
      delay.quarter.nanos = 0 ∨ delay.quarter.nanos % UInt64.size ≠ 0 := by
  rw [drawable, Bool.or_eq_true, decide_eq_true_iff, decide_eq_true_iff, width]

theorem drawable_eq_false_iff (delay : Duration) :
    drawable delay = false ↔
      delay.quarter.nanos ≠ 0 ∧ delay.quarter.nanos % UInt64.size = 0 := by
  rw [drawable, Bool.or_eq_false_iff, decide_eq_false_iff_not, decide_eq_false_iff_not,
    not_not, width]

example : drawable (.ofNanos (2 ^ 66)) = false := by decide

/-- A delay can be moved at random just when it is drawable. -/
theorem symmetric_isOk (draw : Draw) (delay : Duration) :
    (symmetric draw delay).isOk = drawable delay := by
  unfold symmetric drawable
  by_cases small : delay.quarter.nanos = 0
  · rw [if_pos small]
    simp [small, Except.isOk, Except.toBool]
  · rw [if_neg small]
    by_cases empty : width delay = 0
    · rw [if_pos empty]
      simp [small, empty, Except.isOk, Except.toBool]
    · rw [if_neg empty]
      simp [empty, Except.isOk, Except.toBool]

theorem drawn_eq_ok_iff {β : Type} (delays : List Duration) (shown : β) :
    drawn delays shown = .ok shown ↔ ∀ delay ∈ delays, drawable delay = true := by
  rw [← List.all_eq_true, drawn]
  cases delays.all drawable with
  | true => exact iff_of_true rfl rfl
  | false => exact iff_of_false (fun same => nomatch same) Bool.false_ne_true

theorem drawn_eq_error_iff {β : Type} (delays : List Duration) (shown : β) :
    drawn delays shown = .error .emptyRange ↔ ∃ delay ∈ delays, drawable delay = false := by
  have fails : (∃ delay ∈ delays, drawable delay = false) ↔ delays.all drawable = false := by
    simp
  rw [fails, drawn]
  cases delays.all drawable with
  | true => exact iff_of_false (fun same => nomatch same) (fun same => nomatch same)
  | false => exact iff_of_true rfl rfl

end Jitter

/-- **A run follows the outcomes of its attempts.**  It makes `n` of them, where `n` is the
least number at which an attempt has a value or an error not worth retrying, or the limit
is reached, and answers with the outcome of attempt `n` as it is; it draws the policy's
first `n - 1` delays, one jittered pause for each, and takes the time of its attempts and
of these pauses; it never ends as cancelled, and its counter of attempts fits 32 bits.

With random jitter it does the same, except that it has no report when a quarter of one
of those delays is a whole multiple of `2 ^ 64` nanoseconds and not zero. -/
theorem runIf_follows_outcomes (policy : Policy) (shouldRetry : ε → Bool)
    (operation : Nat → Attempt ε α) :
    ∃ n, IsLeast {k | 1 ≤ k ∧
        (goesOn shouldRetry (operation (k - 1)).outcome = false ∨ k = policy.attempts)} n ∧
      n < UInt32.size ∧
      (∀ jitter,
        (runIf policy jitter shouldRetry operation).calls = n ∧
        (runIf policy jitter shouldRetry operation).outcome = (operation (n - 1)).outcome ∧
        (runIf policy jitter shouldRetry operation).delays =
          (List.range (n - 1)).map policy.delay ∧
        (runIf policy jitter shouldRetry operation).elapsed =
          ∑ k ∈ Finset.range n, (operation k).takes +
            ∑ k ∈ Finset.range (n - 1), (jitter k (policy.delay k)).sleepMillis ∧
        (runCancellable policy jitter shouldRetry operation .never).outcome =
          (operation (n - 1)).outcome.mapError .operation) ∧
      (∀ draws,
        (runRandomIf policy draws shouldRetry operation =
            .ok (runIf policy (Jitter.random draws) shouldRetry operation) ↔
          ∀ k < n - 1, (policy.delay k).quarter.nanos = 0 ∨
            (policy.delay k).quarter.nanos % UInt64.size ≠ 0) ∧
        (runRandomIf policy draws shouldRetry operation = .error .emptyRange ↔
          ∃ k < n - 1, (policy.delay k).quarter.nanos ≠ 0 ∧
            (policy.delay k).quarter.nanos % UInt64.size = 0)) ∧
      (∀ jitter, run policy jitter operation =
        runIf policy jitter (fun _ => true) operation) ∧
      (∀ draws, runRandom policy draws operation =
        runRandomIf policy draws (fun _ => true) operation) := by
  obtain ⟨n, lastOne⟩ := exists_lastAttempt policy shouldRetry operation
  have shows := fun jitter => runIf_shows policy jitter shouldRetry operation lastOne
  refine ⟨n, lastOne.isLeast, Nat.lt_of_le_of_lt lastOne.capped policy.attempts_lt,
    fun jitter => ⟨(shows jitter).calls, (shows jitter).outcome, ?_, ?_, ?_⟩,
    fun draws => ⟨?_, ?_⟩, fun _ => rfl, fun _ => rfl⟩
  · rw [(shows jitter).delays, policy.delays_eq_map]
  · rw [(shows jitter).elapsed, finished_eq_sum policy jitter operation lastOne.positive]
    rfl
  · rw [runCancellable_never policy jitter shouldRetry operation lastOne]
    exact Trace.ofLast_outcome ..
  · rw [runRandomIf, (shows _).delays, policy.delays_eq_map, Jitter.drawn_eq_ok_iff]
    simp only [List.forall_mem_map, List.mem_range, Jitter.drawable_eq_true_iff]
  · rw [runRandomIf, (shows _).delays, policy.delays_eq_map, Jitter.drawn_eq_error_iff]
    simp [Jitter.drawable_eq_false_iff]

end Courier.Retry
