/-
# Courier.Proofs.Pipeline.Elapsed -- how long a protected call takes

A call that the breaker turns away takes no time.  Any other one takes the time of its attempts
and of the pauses between them, and nothing after the last attempt.  An attempt takes as long as
it needs, or until the timer of the limit fires: work that needs just as long as the timer still
ends by itself, and work that never ends is cut off (`Operation.busy`, `Operation.ending`).

Timers count whole milliseconds, so a limit and a pause last as long as their durations rounded
up, unless a timer cannot be set for so long: a limit can be of any length below
`Duration.timerHorizon` seconds, a pause of thirty years at most (`Near`).  `Timed` is the account
of a call in terms of what its timers are set for; `elapsed_of_run` has it as the timers keep
time, and rounded up where they are near enough.

With random jitter near pauses have another use: a delay with nothing to draw from is longer than
thirty years, so a call whose pauses are near never comes to one.
-/
import Courier.Proofs.Pipeline.OneCall
import Courier.Proofs.Retry.Jitter

namespace Courier

set_option autoImplicit false

/-! ## Timers -/

theorem Duration.timerMillis_of_near {d : Duration} (near : d.seconds < timerHorizon) :
    d.timerMillis = d.ceilMillis :=
  if_pos near

theorem Duration.sleepMillis_of_near {d : Duration} (near : d.ceilMillis ≤ farFuture) :
    d.sleepMillis = d.ceilMillis :=
  Nat.min_eq_left near

/-- What takes thirty years at most can be moved at random. -/
theorem Retry.Jitter.drawable_of_near {d : Duration} (near : d.ceilMillis ≤ Duration.farFuture) :
    drawable d = true := by
  apply drawable_of_lt
  have years : Duration.farFuture * 1000000 < 4 * UInt64.size := by decide
  have rounded : d.nanos ≤ d.ceilMillis * 1000000 := by
    unfold Duration.ceilMillis
    omega
  omega

/-- A delay with nothing to draw from stays as it is. -/
theorem Retry.Jitter.random_of_not_drawable {d : Duration} (empty : drawable d = false)
    (draws : Nat → Draw) (k : Nat) : random draws k d = d := by
  have error := (symmetric_eq_error_iff (draws k) d).mpr ((drawable_eq_false_iff d).mp empty)
  unfold random
  simp only [error]

namespace Timeout

variable {α : Type}

/-- Work under a limit is over when it ends or when the timer fires. -/
theorem race_takes (limit : Duration) (work : Work α) :
    (race limit work).takes = work.needs.elim limit.timerMillis (min · limit.timerMillis) := by
  unfold race
  cases needs : work.needs with
  | none => rfl
  | some millis =>
      by_cases within : millis ≤ limit.timerMillis
      · simp only [if_pos within, Option.elim_some, Nat.min_eq_left within]
      · simp only [if_neg within, Option.elim_some,
          Nat.min_eq_right (Nat.le_of_not_le within)]

end Timeout

namespace Pipeline

open Retry (LastAttempt)

variable {ε α : Type} {c : Config} {jitter : Retry.Jitter} {operation : Operation ε α}
variable {clock : Readings} {s : State}

/-! ## One attempt -/

/-- Milliseconds from the beginning of an invocation to its end or to the end of a limit of
`limit` milliseconds. -/
def Operation.busy (operation : Operation ε α) (limit k : Nat) : Nat :=
  (operation.work k).needs.elim limit (min · limit)

/-- How an invocation ends under a timer of `limit` milliseconds set for `timeout`. -/
def Operation.ending (operation : Operation ε α) (timeout : Duration) (limit k : Nat) :
    Except ε α :=
  if (operation.work k).needs.any fun millis => decide (millis ≤ limit) then
    (operation.work k).value
  else .error (operation.timedOut ⟨timeout⟩)

theorem outcome_eq_ending (c : Config) (operation : Operation ε α) (k : Nat) :
    operation.outcome c k = operation.ending c.timeout c.timeout.timerMillis k := by
  unfold Operation.ending
  split
  · rename_i inTime
    exact outcome_of_finishes inTime
  · rename_i late
    exact outcome_of_cut (Bool.eq_false_iff.mpr late)

/-! ## The whole call -/

/-- The account of a call that makes `n` attempts, with a timer of `limit` milliseconds for each
and a sleep of `pauses k` milliseconds after attempt `k`. -/
structure Timed (c : Config) (operation : Operation ε α) (limit : Nat) (pauses : Nat → Nat)
    (n : Nat) (report : Report ε α) : Prop where
  calls : report.calls = n
  attempts : ∀ k < n, operation.outcome c k = operation.ending c.timeout limit k
  last : LastAttempt operation.shouldRetry (operation.ending c.timeout limit) c.policy.attempts n
  outcome : report.outcome = answer n (operation.ending c.timeout limit (n - 1))
  delays : report.delays = (List.range (n - 1)).map c.policy.delay
  elapsed : report.elapsed =
    ∑ k ∈ Finset.range n, operation.busy limit k + ∑ k ∈ Finset.range (n - 1), pauses k

/-- Only the pauses before the last attempt matter. -/
theorem Timed.congr {limit n : Nat} {pauses others : Nat → Nat} {report : Report ε α}
    (timed : Timed c operation limit pauses n report)
    (same : ∀ k, k + 1 < n → pauses k = others k) : Timed c operation limit others n report where
  calls := timed.calls
  attempts := timed.attempts
  last := timed.last
  outcome := timed.outcome
  delays := timed.delays
  elapsed := by
    rw [timed.elapsed]
    refine congrArg _ (Finset.sum_congr rfl fun k member => same k ?_)
    have before := Finset.mem_range.mp member
    omega

theorem elapsed_of_denied (denied : ¬ Admitted c clock s) :
    (run c jitter operation clock s).elapsed = 0 := by
  unfold run
  simp only [not_not.mp denied]

theorem timed_of_admitted (jitter : Retry.Jitter) (operation : Operation ε α)
    (admitted : Admitted c clock s) :
    ∃ n, Timed c operation c.timeout.timerMillis
      (fun k => (jitter k (c.policy.delay k)).sleepMillis) n
      (run c jitter operation clock s) := by
  obtain ⟨permit, given⟩ := Option.ne_none_iff_exists'.mp admitted
  obtain ⟨n, lastOne, calls, outcome⟩ := run_of_admitted c jitter operation given
  obtain ⟨m, other, shows⟩ := attempts_spec c jitter operation
  obtain rfl := lastOne.unique other
  have endings : operation.outcome c = operation.ending c.timeout c.timeout.timerMillis :=
    funext (outcome_eq_ending c operation)
  refine ⟨n, {
    calls := calls
    attempts := fun k _ => outcome_eq_ending c operation k
    last := endings ▸ lastOne
    outcome := endings ▸ outcome
    delays := delays_of_admitted admitted lastOne
    elapsed := ?_ }⟩
  have elapsed : (run c jitter operation clock s).elapsed =
      (attempts c jitter operation).elapsed := by
    unfold run
    simp only [given]
  rw [elapsed, shows.elapsed, Retry.finished_eq_sum _ _ _ lastOne.positive]
  exact congrArg₂ _ (Finset.sum_congr rfl fun k _ => Timeout.race_takes ..) rfl

/-- The limit and the pauses of a call that makes so many attempts are near enough for a timer to
be set. -/
structure Near (c : Config) (jitter : Retry.Jitter) (calls : Nat) : Prop where
  limit : c.timeout.seconds < Duration.timerHorizon
  pauses : ∀ k, k + 1 < calls → (jitter k (c.policy.delay k)).ceilMillis ≤ Duration.farFuture

theorem timed_of_near (admitted : Admitted c clock s)
    (near : Near c jitter (run c jitter operation clock s).calls) :
    ∃ n, Timed c operation c.timeout.ceilMillis
      (fun k => (jitter k (c.policy.delay k)).ceilMillis) n
      (run c jitter operation clock s) := by
  obtain ⟨n, timed⟩ := timed_of_admitted jitter operation admitted
  rw [Duration.timerMillis_of_near near.limit] at timed
  refine ⟨n, timed.congr fun k before => ?_⟩
  rw [← timed.calls] at before
  exact Duration.sleepMillis_of_near (near.pauses k before)

/-- Random jitter always finds something to draw from in a call whose pauses are near. -/
theorem runRandom_of_near {draws : Nat → Retry.Jitter.Draw}
    (near : Near c (Retry.Jitter.random draws)
      (run c (Retry.Jitter.random draws) operation clock s).calls) :
    runRandom c draws operation clock s =
      .ok (run c (Retry.Jitter.random draws) operation clock s) := by
  rw [runRandom, Retry.Jitter.drawn_eq_ok_iff]
  intro delay member
  by_cases admitted : Admitted c clock s
  · obtain ⟨n, timed⟩ := timed_of_admitted (Retry.Jitter.random draws) operation admitted
    rw [timed.delays] at member
    obtain ⟨k, listed, rfl⟩ := List.mem_map.mp member
    have before : k + 1 < n := by
      have listed := List.mem_range.mp listed
      omega
    have short := near.pauses k (timed.calls ▸ before)
    by_contra empty
    rw [Retry.Jitter.random_of_not_drawable (Bool.eq_false_iff.mpr empty)] at short
    exact empty (Retry.Jitter.drawable_of_near short)
  · rw [delays_of_denied (not_not.mp admitted)] at member
    cases member

/-- **A protected call takes the time of its attempts and of the pauses between them.**  In any
state, with any settings, work, predicate and jitter: a call that the breaker turns away makes no
attempt and takes no time.  Any other one makes the attempts that the retry loop asks for, where
each ends as its work does if the timer of the limit allows for it and with a timeout if not
(`Timed`), and takes the sum of what they take and of the pauses after all but the last one, which
are the delays of the policy after jitter.

While the limit and the pauses are near enough for a timer to be set, they count as their durations
rounded up to milliseconds; and then random jitter always has something to draw from. -/
theorem elapsed_of_run (c : Config) (operation : Operation ε α) (clock : Readings) (s : State) :
    (∀ jitter, ¬ Admitted c clock s →
      (run c jitter operation clock s).calls = 0 ∧
        (run c jitter operation clock s).elapsed = 0) ∧
    (∀ jitter, Admitted c clock s →
      ∃ n, Timed c operation c.timeout.timerMillis
        (fun k => (jitter k (c.policy.delay k)).sleepMillis) n
        (run c jitter operation clock s)) ∧
    (∀ jitter, Admitted c clock s → Near c jitter (run c jitter operation clock s).calls →
      ∃ n, Timed c operation c.timeout.ceilMillis
        (fun k => (jitter k (c.policy.delay k)).ceilMillis) n
        (run c jitter operation clock s)) ∧
    (∀ draws, Near c (Retry.Jitter.random draws)
        (run c (Retry.Jitter.random draws) operation clock s).calls →
      runRandom c draws operation clock s =
        .ok (run c (Retry.Jitter.random draws) operation clock s)) := by
  refine ⟨fun jitter denied => ?_, fun jitter => timed_of_admitted jitter operation,
    fun jitter => timed_of_near, fun draws => runRandom_of_near⟩
  exact ⟨(run_of_rejected c jitter operation (not_not.mp denied)).1, elapsed_of_denied denied⟩

/-- Three attempts with a limit that is not a whole number of milliseconds. -/
def hurried : Config where
  timeout := .ofNanos 50500000
  circuit := .standard
  retry := some .standard
  rate := .standard

/-- Work that fails in the very millisecond in which a limit of 50.5 ms is reached, hangs, and then
ends at once. -/
def twiceLate : Operation String Nat where
  work
    | 0 => .sleeping 51 (.error "busy")
    | 1 => .hanging (.ok 1)
    | _ => .sleeping 0 (.ok 2)
  timedOut cut := cut.message
  shouldRetry _ := true

/-- Two attempts of 51 ms, one of none, and pauses of 200 and 400 ms. -/
theorem elapsed_of_run_hurried :
    Admitted hurried (.still 0) .initial ∧
      Near hurried Retry.Jitter.unchanged
        (run hurried Retry.Jitter.unchanged twiceLate (.still 0) .initial).calls ∧
      (∃ n, Timed hurried twiceLate 51
        (fun k => (hurried.policy.delay k).ceilMillis) n
        (run hurried Retry.Jitter.unchanged twiceLate (.still 0) .initial)) ∧
      (run hurried Retry.Jitter.unchanged twiceLate (.still 0) .initial).elapsed = 702 := by
  have admitted : Admitted hurried (.still 0) .initial := by
    unfold Admitted
    decide
  have three : (run hurried Retry.Jitter.unchanged twiceLate (.still 0) .initial).calls = 3 := by
    decide +kernel
  have near : Near hurried Retry.Jitter.unchanged
      (run hurried Retry.Jitter.unchanged twiceLate (.still 0) .initial).calls := by
    rw [three]
    refine ⟨by decide, fun k before => ?_⟩
    have cases : k = 0 ∨ k = 1 := by omega
    rcases cases with rfl | rfl <;> decide +kernel
  exact ⟨admitted, near,
    (elapsed_of_run hurried twiceLate (.still 0) .initial).2.2.1 _ admitted near, by decide +kernel⟩

end Pipeline

end Courier
