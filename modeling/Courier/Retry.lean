/-
# Courier.Retry -- attempts, pauses between them, and cancellation

An operation is given by what each of its attempts does (`Attempt`), and a run of
it answers with everything there is to see: the outcome, how many attempts were
made, the delays in the order in which they were drawn, and the milliseconds that
passed (`Trace`).

An attempt that fails is repeated while attempts are left and its error is worth
retrying.  Before every repetition the run pauses for the policy's next delay,
adjusted by a `Jitter`; nothing is slept after a success or after the last
attempt.

A `Cancellation` stops a run before its next attempt or during a pause; an attempt
under way is never interrupted.  When a cancellation and the end of a pause fall
together either may be noticed first, which `Cancellation.pauseWins` decides.
Without a cancellation a run never ends as cancelled (`loop_neverCancelled`), so
`runIf` hands out a plain outcome.
-/
import Courier.Backoff
import Courier.Metric

namespace Courier.Retry

set_option autoImplicit false

/-- What one invocation of an operation does: how many milliseconds it takes, and
how it ends. -/
structure Attempt (ε α : Type) where
  takes : Nat
  outcome : Except ε α

/-- Adjusts a delay; the number, counted from zero, says which pause of the run it
is for. -/
abbrev Jitter := Nat → Duration → Duration

/-- Why a run has no value. -/
inductive Stopped (ε : Type) where
  /-- Cancelled after this many attempts. -/
  | cancelled (attempts : Nat)
  /-- The last attempt's own error. -/
  | operation (error : ε)

namespace Stopped

def message {ε : Type} (describe : ε → String) : Stopped ε → String
  | .cancelled attempts => "Retry cancelled after " ++ toString attempts ++ " attempt(s)"
  | .operation error => describe error

/-- The operation's own error, if the run was not cancelled. -/
def operation? {ε : Type} : Stopped ε → Option ε
  | .cancelled _ => none
  | .operation error => some error

end Stopped

/-- When a run is cancelled. -/
structure Cancellation where
  /-- Timer reading, in milliseconds from the start of the run, of a cancellation
  from outside. -/
  moment : Option Nat
  /-- Whether the attempt with this number, counted from zero, cancels the run as
  it is invoked. -/
  byAttempt : Nat → Bool
  /-- Whether the end of this pause is noticed before a cancellation that falls
  together with it. -/
  pauseWins : Nat → Bool

namespace Cancellation

/-- A run that is never cancelled. -/
def never : Cancellation := ⟨none, fun _ => false, fun _ => false⟩

/-- Whether a cancellation at `moment` has happened by `now`. -/
def happened (moment : Option Nat) (now : Nat) : Bool := moment.any fun t => decide (t ≤ now)

/-- The earlier of a known cancellation and one that happens at `now`. -/
def joined (moment : Option Nat) (cancels : Bool) (now : Nat) : Option Nat :=
  if cancels then some (moment.elim now (min now)) else moment

/-- The reading at which a pause from `start` to `wake` is cut short, if it is. -/
def cut (moment : Option Nat) (start wake : Nat) (pauseWins : Bool) : Option Nat :=
  match moment with
  | none => none
  | some t =>
      if wake < t then none
      else if (decide (wake = start) || decide (t = wake)) && pauseWins then none
      else some (max start t)

@[simp] theorem happened_none (now : Nat) : happened none now = false := rfl

@[simp] theorem joined_false (moment : Option Nat) (now : Nat) :
    joined moment false now = moment := rfl

@[simp] theorem cut_none (start wake : Nat) (pauseWins : Bool) :
    cut none start wake pauseWins = none := rfl

end Cancellation

/-- All there is to see of a run. -/
structure Trace (ε α : Type) where
  outcome : Except (Stopped ε) α
  /-- Attempts made. -/
  calls : Nat
  /-- Delays as drawn from the policy, before jitter. -/
  delays : List Duration
  /-- Timer reading at the end, in milliseconds from the start of the run. -/
  elapsed : Nat
  metrics : List Metric

namespace Trace

variable {ε α : Type}

def cancelled (attempts now : Nat) : Trace ε α :=
  ⟨.error (.cancelled attempts), attempts, [], now, [.retried .cancelled attempts]⟩

def succeeded (value : α) (attempts now : Nat) : Trace ε α :=
  ⟨.ok value, attempts, [], now, [.retried .success attempts]⟩

def failed (error : ε) (attempts now : Nat) : Trace ε α :=
  ⟨.error (.operation error), attempts, [], now, [.retried .failure attempts]⟩

/-- The trace with one more delay, drawn before everything it shows. -/
def withDelay (delay : Duration) (t : Trace ε α) : Trace ε α :=
  { t with delays := delay :: t.delays }

/-- The run did not end by cancellation. -/
def NeverCancelled (t : Trace ε α) : Prop :=
  ∀ attempts, t.outcome ≠ .error (.cancelled attempts)

/-- The outcome of a run that did not end by cancellation. -/
def settled (t : Trace ε α) (h : t.NeverCancelled) : Except ε α :=
  match ho : t.outcome with
  | .ok value => .ok value
  | .error (.operation error) => .error error
  | .error (.cancelled attempts) => absurd ho (h attempts)

end Trace

variable {ε α : Type}

/-- The run from the point where `made` attempts have been made, at most `left`
may follow the next one, the delay sequence stands at `current`, and the timer at
`now`. -/
def loop (policy : Policy) (jitter : Jitter) (shouldRetry : ε → Bool)
    (operation : Nat → Attempt ε α) (cancellation : Cancellation) (left made : Nat)
    (current : Duration) (moment : Option Nat) (now : Nat) : Trace ε α :=
  if Cancellation.happened moment now then .cancelled made now
  else
    let attempt := operation made
    let moment := Cancellation.joined moment (cancellation.byAttempt made) now
    let done := now + attempt.takes
    match attempt.outcome with
    | .ok value => .succeeded value (made + 1) done
    | .error error =>
        match left with
        | 0 => .failed error (made + 1) done
        | left + 1 =>
            if shouldRetry error then
              let delay := policy.next current
              let wake := done + (jitter made delay).sleepMillis
              match Cancellation.cut moment done wake (cancellation.pauseWins made) with
              | some t => (Trace.cancelled (made + 1) t).withDelay delay
              | none =>
                  (loop policy jitter shouldRetry operation cancellation left (made + 1) delay
                    moment wake).withDelay delay
            else .failed error (made + 1) done

theorem loop_neverCancelled (policy : Policy) (jitter : Jitter) (shouldRetry : ε → Bool)
    (operation : Nat → Attempt ε α) (left made : Nat) (current : Duration) (now : Nat) :
    (loop policy jitter shouldRetry operation .never left made current none
      now).NeverCancelled := by
  induction left generalizing made current now with
  | zero =>
      intro attempts
      unfold loop
      cases h : (operation made).outcome <;>
        simp [Trace.succeeded, Trace.failed, h]
  | succ left ih =>
      intro attempts
      unfold loop
      cases h : (operation made).outcome with
      | ok value => simp [Trace.succeeded, h]
      | error error =>
          cases hr : shouldRetry error with
          | false => simp [Trace.failed, h, hr]
          | true =>
              have := ih (made + 1) (policy.next current)
                (now + (operation made).takes +
                  (jitter made (policy.next current)).sleepMillis) attempts
              simpa [Trace.withDelay, Cancellation.never, h, hr] using this

/-- A run that can be cancelled. -/
def runCancellable (policy : Policy) (jitter : Jitter) (shouldRetry : ε → Bool)
    (operation : Nat → Attempt ε α) (cancellation : Cancellation) : Trace ε α :=
  loop policy jitter shouldRetry operation cancellation (policy.attempts - 1) 0
    policy.initialDelay cancellation.moment 0

/-- What a run that cannot be cancelled shows. -/
structure Report (ε α : Type) where
  outcome : Except ε α
  calls : Nat
  delays : List Duration
  elapsed : Nat
  metrics : List Metric

/-- A run to the end that retries the errors `shouldRetry` accepts. -/
def runIf (policy : Policy) (jitter : Jitter) (shouldRetry : ε → Bool)
    (operation : Nat → Attempt ε α) : Report ε α :=
  let trace := runCancellable policy jitter shouldRetry operation .never
  ⟨trace.settled (loop_neverCancelled _ _ _ _ _ _ _ _), trace.calls, trace.delays, trace.elapsed,
    trace.metrics⟩

/-- A run to the end that retries every error. -/
def run (policy : Policy) (jitter : Jitter) (operation : Nat → Attempt ε α) : Report ε α :=
  runIf policy jitter (fun _ => true) operation

end Courier.Retry
