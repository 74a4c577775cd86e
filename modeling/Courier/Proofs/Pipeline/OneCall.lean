/-
# Courier.Proofs.Pipeline.OneCall -- a protected call is one call of the breaker

However many attempts a protected call makes, the breaker is asked once and told once.  A
call that it turns away is `TurnedAway`: nothing is invoked and nothing changes.  Any other
one has `Made` its attempts: their number is that of the invocations, at least one and at
most what the policy allows, its answer is that of the last attempt, and the breaker is left
as a single `Breaker.call` with that outcome leaves it.  Attempts that fail or run past the
limit on the way to the last one do not reach the breaker; an attempt that ran past the
limit counts for the retry loop, and for the caller if it is the last one, as one that
failed with the error that stands for a timeout.

`run_is_one_call` says so for every jitter that answers all delays.  A run with random
jitter is the one with the jitter that was drawn, unless it comes to a delay with nothing to
draw from (`Undrawable`); then it has no report.
-/
import Courier.Proofs.Pipeline.Run
import Courier.Proofs.Circuit.Step

namespace Courier.Pipeline

set_option autoImplicit false

open Retry (LastAttempt)

variable {ε α : Type} {c : Config} {jitter : Retry.Jitter} {operation : Operation ε α}
variable {clock : Readings} {s : State}

/-! ## The breaker's part -/

/-- Whether the breaker lets the call through. -/
def Admitted (c : Config) (clock : Readings) (s : State) : Prop :=
  (s.breaker.enter c.circuit clock.started).permit ≠ none

theorem call_of_denied {single : Except ε α}
    (denied : (s.breaker.enter c.circuit clock.started).permit = none) :
    (s.breaker.call c.circuit clock.started clock.finished single).1 = none := by
  unfold Circuit.Breaker.call
  simp only [denied]

/-- A breaker that turns a call away is left as it is. -/
theorem state_of_denied (denied : (s.breaker.enter c.circuit clock.started).permit = none) :
    (run c jitter operation clock s).state = s := by
  have entry := Circuit.Breaker.enter_entry c.circuit clock.started s.breaker
  unfold run
  simp only [denied]
  generalize s.breaker.enter c.circuit clock.started = admission at entry denied ⊢
  obtain ⟨permit, breaker, metrics⟩ := admission
  cases denied
  rw [entry.eq_of_denied]

/-- A call that is let through tells the breaker how it ended, and nothing else. -/
theorem call_of_admitted (admitted : Admitted c clock s) (single : Except ε α)
    (same : single.isOk = (run c jitter operation clock s).outcome.isOk) :
    ∃ metrics, s.breaker.call c.circuit clock.started clock.finished single =
      (some single, (run c jitter operation clock s).state.breaker, metrics) := by
  obtain ⟨permit, given⟩ := Option.ne_none_iff_exists'.mp admitted
  have told : (run c jitter operation clock s).outcome.isOk =
      (attempts c jitter operation).outcome.isOk := by
    unfold run
    simp only [given]
    cases (attempts c jitter operation).outcome <;> rfl
  unfold Circuit.Breaker.call run
  simp only [given, same, told]
  exact ⟨_, rfl⟩

/-! ## The two kinds of reports -/

/-- The report of a call that the breaker turned away. -/
structure TurnedAway (c : Config) (clock : Readings) (s : State) (report : Report ε α) :
    Prop where
  outcome : report.outcome = .error .circuitOpen
  calls : report.calls = 0
  state : report.state = s
  /-- So would it have been without the other layers. -/
  call : ∀ single : Except ε α,
    (s.breaker.call c.circuit clock.started clock.finished single).1 = none

/-- The report of a call that made `n` attempts. -/
structure Made (c : Config) (operation : Operation ε α) (clock : Readings) (s : State)
    (report : Report ε α) (n : Nat) : Prop where
  calls : report.calls = n
  bounds : 1 ≤ n ∧ n ≤ max 1 c.policy.maxAttempts.toNat
  /-- They end where the retry loop has nothing more to try. -/
  last : LastAttempt operation.shouldRetry (operation.outcome c) c.policy.attempts n
  /-- The answer is that of the last attempt, with the number of attempts. -/
  outcome : (∃ value, operation.outcome c (n - 1) = .ok value ∧ report.outcome = .ok ⟨value, n⟩) ∨
    ∃ error, operation.outcome c (n - 1) = .error error ∧
      report.outcome = .error (.failed n error)
  inTime : ∀ k < n, Timeout.finishes c.timeout (operation.work k) = true →
    operation.outcome c k = (operation.work k).value
  /-- An attempt that ran past the limit was worth another one, or is what is answered. -/
  timedOut : ∀ k < n, Timeout.finishes c.timeout (operation.work k) = false →
    (k + 1 < n → operation.shouldRetry (operation.timedOut ⟨c.timeout⟩) = true) ∧
    (k + 1 = n → report.outcome = .error (.failed n (operation.timedOut ⟨c.timeout⟩)) ∧
      (n < c.policy.attempts → operation.shouldRetry (operation.timedOut ⟨c.timeout⟩) = false))
  /-- The breaker has seen one call with one outcome. -/
  call : ∀ single : Except ε α, single.isOk = report.outcome.isOk →
    ∃ metrics, s.breaker.call c.circuit clock.started clock.finished single =
      (some single, report.state.breaker, metrics)

theorem turnedAway_of_denied
    (denied : (s.breaker.enter c.circuit clock.started).permit = none) :
    TurnedAway c clock s (run c jitter operation clock s) := by
  obtain ⟨calls, outcome⟩ := run_of_rejected c jitter operation denied
  exact ⟨outcome, calls, state_of_denied denied, fun _ => call_of_denied denied⟩

theorem timedOut_of_last {report : Report ε α} {n : Nat}
    (lastOne : LastAttempt operation.shouldRetry (operation.outcome c) c.policy.attempts n)
    (told : report.outcome = answer n (operation.outcome c (n - 1))) {k : Nat}
    (cut : Timeout.finishes c.timeout (operation.work k) = false) :
    (k + 1 < n → operation.shouldRetry (operation.timedOut ⟨c.timeout⟩) = true) ∧
    (k + 1 = n → report.outcome = .error (.failed n (operation.timedOut ⟨c.timeout⟩)) ∧
      (n < c.policy.attempts →
        operation.shouldRetry (operation.timedOut ⟨c.timeout⟩) = false)) := by
  have outcome := outcome_of_cut cut
  constructor
  · intro earlier
    have went := lastOne.earlier k earlier
    rw [outcome] at went
    exact went
  · rintro rfl
    rw [Nat.add_sub_cancel, outcome] at told
    refine ⟨told, fun more => ?_⟩
    rcases lastOne.last with stopped | exhausted
    · rw [Nat.add_sub_cancel, outcome] at stopped
      exact stopped
    · exact absurd exhausted (Nat.ne_of_lt more)

theorem made_of_admitted (admitted : Admitted c clock s) :
    ∃ n, Made c operation clock s (run c jitter operation clock s) n := by
  obtain ⟨permit, given⟩ := Option.ne_none_iff_exists'.mp admitted
  obtain ⟨n, lastOne, calls, told⟩ := run_of_admitted c jitter operation given
  refine ⟨n, {
    calls := calls
    bounds := ⟨lastOne.positive, lastOne.capped⟩
    last := lastOne
    outcome := ?_
    inTime := fun _ _ ended => outcome_of_finishes ended
    timedOut := fun _ _ cut => timedOut_of_last lastOne told cut
    call := fun single same => call_of_admitted admitted single same }⟩
  rw [told]
  cases outcome : operation.outcome c (n - 1) with
  | ok value => exact .inl ⟨value, rfl, rfl⟩
  | error error => exact .inr ⟨error, rfl, rfl⟩

/-! ## Random jitter -/

/-- The breaker lets the call through, and a quarter of a delay it comes to is a whole
multiple of `2 ^ 64` nanoseconds and not zero. -/
def Undrawable (c : Config) (operation : Operation ε α) (clock : Readings) (s : State) : Prop :=
  Admitted c clock s ∧
    ∃ n, LastAttempt operation.shouldRetry (operation.outcome c) c.policy.attempts n ∧
      ∃ k < n - 1, (c.policy.delay k).quarter.nanos ≠ 0 ∧
        (c.policy.delay k).quarter.nanos % UInt64.size = 0

theorem delays_of_denied (denied : (s.breaker.enter c.circuit clock.started).permit = none) :
    (run c jitter operation clock s).delays = [] := by
  unfold run
  simp only [denied]

theorem delays_of_admitted (admitted : Admitted c clock s) {n : Nat}
    (lastOne : LastAttempt operation.shouldRetry (operation.outcome c) c.policy.attempts n) :
    (run c jitter operation clock s).delays = (List.range (n - 1)).map c.policy.delay := by
  obtain ⟨permit, given⟩ := Option.ne_none_iff_exists'.mp admitted
  obtain ⟨m, other, shows⟩ := attempts_spec c jitter operation
  rw [← c.policy.delays_eq_map, lastOne.unique other, ← shows.delays]
  unfold run
  simp only [given]

theorem undrawable_iff (draws : Nat → Retry.Jitter.Draw) :
    Undrawable c operation clock s ↔
      ∃ delay ∈ (run c (Retry.Jitter.random draws) operation clock s).delays,
        Retry.Jitter.drawable delay = false := by
  cases answer : (s.breaker.enter c.circuit clock.started).permit with
  | none =>
      rw [delays_of_denied answer]
      exact iff_of_false (fun stuck => stuck.1 answer) (by simp)
  | some permit =>
      have admitted : Admitted c clock s := by
        rw [Admitted, answer]
        exact Option.some_ne_none permit
      obtain ⟨n, lastOne, -⟩ := attempts_spec c (Retry.Jitter.random draws) operation
      rw [delays_of_admitted admitted lastOne]
      constructor
      · rintro ⟨-, m, other, k, before, empty⟩
        rw [other.unique lastOne] at before
        exact ⟨_, List.mem_map_of_mem (List.mem_range.mpr before),
          (Retry.Jitter.drawable_eq_false_iff _).mpr empty⟩
      · rintro ⟨delay, member, empty⟩
        obtain ⟨k, before, rfl⟩ := List.mem_map.mp member
        exact ⟨admitted, n, lastOne, k, List.mem_range.mp before,
          (Retry.Jitter.drawable_eq_false_iff _).mp empty⟩

/-- **A protected call is one call of the breaker.**  In any state, with any settings, work
and predicate: a call that the breaker turns away invokes nothing and changes nothing; any
other one makes as many attempts as it tells of, at least one and at most what the policy
allows, answers with the outcome of the last one, and leaves the breaker as a single call
with that outcome does, however many attempts failed or ran past the limit before.

With random jitter this is so of every call that does not come to a delay with nothing to
draw from; a call that does has no report. -/
theorem run_is_one_call (c : Config) (operation : Operation ε α) (clock : Readings) (s : State) :
    (∀ jitter,
      (¬ Admitted c clock s ∧ TurnedAway c clock s (run c jitter operation clock s)) ∨
        Admitted c clock s ∧ ∃ n, Made c operation clock s (run c jitter operation clock s) n) ∧
    (∀ draws,
      (runRandom c draws operation clock s =
          .ok (run c (Retry.Jitter.random draws) operation clock s) ↔
        ¬ Undrawable c operation clock s) ∧
      (runRandom c draws operation clock s = .error .emptyRange ↔
        Undrawable c operation clock s)) := by
  refine ⟨fun jitter => ?_, fun draws => ⟨?_, ?_⟩⟩
  · by_cases admitted : Admitted c clock s
    · exact .inr ⟨admitted, made_of_admitted admitted⟩
    · exact .inl ⟨admitted, turnedAway_of_denied (not_not.mp admitted)⟩
  · rw [runRandom, Retry.Jitter.drawn_eq_ok_iff, undrawable_iff draws]
    simp
  · rw [runRandom, Retry.Jitter.drawn_eq_error_iff, undrawable_iff draws]

/-- Two attempts, and between them a pause that nothing can be drawn for. -/
def longPause : Config where
  timeout := .ofSeconds 30
  circuit := .standard
  retry := some
    { maxAttempts := 2, initialDelay := .ofNanos (4 * UInt64.size),
      maxDelay := .ofNanos (4 * UInt64.size), multiplier := .ofNat 2 }
  rate := .standard

/-- Work that is worth another attempt at first. -/
def busyOnce : Operation String Nat where
  work k := .sleeping 0 (if k = 0 then .error "busy" else .ok 1)
  timedOut cut := cut.message
  shouldRetry _ := true

/-- Left as it is, the pause leads to a second attempt and a value; drawn at random, to no
report at all. -/
theorem run_is_one_call_longPause :
    Undrawable longPause busyOnce (.still 0) .initial ∧
      (run longPause Retry.Jitter.unchanged busyOnce (.still 0) .initial).calls = 2 ∧
      (run longPause Retry.Jitter.unchanged busyOnce (.still 0) .initial).outcome.isOk = true ∧
      ∀ draws, runRandom longPause draws busyOnce (.still 0) .initial = .error .emptyRange := by
  have broken : (runRandom longPause (fun _ => ⟨0, true⟩) busyOnce (.still 0) .initial).isOk =
      false := by decide +kernel
  have random := (run_is_one_call longPause busyOnce (.still 0) .initial).2
  have stuck : Undrawable longPause busyOnce (.still 0) .initial := by
    by_contra drawn
    rw [(random fun _ => ⟨0, true⟩).1.mpr drawn] at broken
    cases broken
  exact ⟨stuck, by decide +kernel, by decide +kernel, fun draws => (random draws).2.mpr stuck⟩

end Courier.Pipeline
