/-
# Courier.Pipeline -- the layers around one outbound dependency

A request passes, from the outside in: the rate limiter, the circuit breaker, the
retry loop, and a timeout around every attempt.

* `grant` asks the limiter alone;
* `run` is one call of the breaker, however many attempts it takes: the breaker
  sees a single outcome, that of the last attempt;
* `execute` is `grant` and then `run`.

A granted admission is kept even when the call is turned away or fails.
-/
import Courier.Circuit.Breaker
import Courier.Jitter
import Courier.Limiter
import Courier.Timeout

namespace Courier.Pipeline

set_option autoImplicit false

/-- What every layer is set to. -/
structure Config where
  timeout : Duration
  circuit : Circuit.Config
  /-- No retry policy means a single attempt. -/
  retry : Option Retry.Policy
  rate : Limiter.Config

namespace Config

/-- Protection for an SMTP server. -/
def smtp : Config where
  timeout := .ofSeconds 30
  circuit :=
    { failureThreshold := 5, successThreshold := 2, cooldown := .ofSeconds 30, probes := 1 }
  retry := some
    { maxAttempts := 3, initialDelay := .ofMillis 100, maxDelay := .ofSeconds 5,
      multiplier := .ofNat 2 }
  rate := { maxRequests := 5, window := .ofSeconds 60 }

/-- Protection for a database: no retry, no limit on requests. -/
def database : Config where
  timeout := .ofSeconds 10
  circuit :=
    { failureThreshold := 10, successThreshold := 3, cooldown := .ofSeconds 30, probes := 1 }
  retry := none
  rate := { maxRequests := 0xFFFFFFFFFFFFFFFF, window := .ofSeconds 1 }

/-- The retry policy in force. -/
def policy (c : Config) : Retry.Policy := c.retry.getD .single

end Config

/-- What the layers remember between requests. -/
structure State where
  limiter : Limiter
  breaker : Circuit.Breaker
  deriving DecidableEq

def State.initial : State := ⟨.empty, .initial⟩

/-- Why a request has no value. -/
inductive Failure (ε : Type) where
  | rateLimited (identifier : String)
  | circuitOpen
  | failed (attempts : Nat) (error : ε)

namespace Failure

def message {ε : Type} (describe : ε → String) : Failure ε → String
  | .rateLimited identifier => "Rate limit exceeded for " ++ identifier
  | .circuitOpen => "Circuit breaker is open"
  | .failed attempts error =>
      "Failed after " ++ toString attempts ++ " attempt(s): " ++ describe error

/-- Attempts that were made. -/
def attempts {ε : Type} : Failure ε → Nat
  | .failed attempts _ => attempts
  | _ => 0

end Failure

/-- A value and the attempts it took. -/
structure Completed (α : Type) where
  value : α
  attempts : Nat

/-- All there is to see of one request. -/
structure Report (ε α : Type) where
  outcome : Except (Failure ε) (Completed α)
  state : State
  /-- Invocations of the operation. -/
  calls : Nat
  /-- Delays as drawn from the policy, before jitter. -/
  delays : List Duration
  /-- Milliseconds the request took. -/
  elapsed : Nat
  metrics : List Metric

variable {ε α : Type}

/-- An operation under protection. -/
structure Operation (ε α : Type) where
  /-- What each invocation does, counted from zero. -/
  work : Nat → Work (Except ε α)
  /-- A timeout as one of the operation's own errors. -/
  timedOut : TimedOut → ε
  /-- Whether an error is worth another attempt. -/
  shouldRetry : ε → Bool

/-- The metrics of the timeouts around the first `count` attempts. -/
def timeoutMetrics (c : Config) (operation : Operation ε α) (count : Nat) : List Metric :=
  (List.range count).flatMap fun k => (Timeout.race c.timeout (operation.work k)).metrics

/-- The retry loop with a timeout around every attempt. -/
def attempts (c : Config) (jitter : Retry.Jitter) (operation : Operation ε α) :
    Retry.Report ε α :=
  Retry.runIf c.policy jitter operation.shouldRetry fun k =>
    Timeout.attempt operation.timedOut c.timeout (operation.work k)

/-- What the clock of limiter and breaker reads in the course of one request. -/
structure Readings where
  /-- When the limiter is asked. -/
  asked : Instant
  /-- When the breaker is asked. -/
  started : Instant
  /-- When the breaker is told the outcome. -/
  finished : Instant

/-- A clock that does not move during the request. -/
def Readings.still (now : Instant) : Readings := ⟨now, now, now⟩

/-- The protected call, without the rate limiter. -/
def run (c : Config) (jitter : Retry.Jitter) (operation : Operation ε α) (clock : Readings)
    (s : State) : Report ε α :=
  let admission := s.breaker.enter c.circuit clock.started
  match admission.permit with
  | none =>
      ⟨.error .circuitOpen, { s with breaker := admission.breaker }, 0, [], 0, admission.metrics⟩
  | some permit =>
      let report := attempts c jitter operation
      let settled := admission.breaker.settle c.circuit clock.finished permit report.outcome.isOk
      let outcome := match report.outcome with
        | .ok value => .ok ⟨value, report.calls⟩
        | .error error => .error (.failed report.calls error)
      ⟨outcome, { s with breaker := settled.1 }, report.calls, report.delays, report.elapsed,
        admission.metrics ++ timeoutMetrics c operation report.calls ++ report.metrics ++ settled.2⟩

/-- The protected call with random jitter: it has no report when it comes to a delay with
nothing to draw from. -/
def runRandom (c : Config) (draws : Nat → Retry.Jitter.Draw) (operation : Operation ε α)
    (clock : Readings) (s : State) : Except Retry.Jitter.DrawError (Report ε α) :=
  let report := run c (Retry.Jitter.random draws) operation clock s
  Retry.Jitter.drawn report.delays report

/-- Asks the limiter for an admission of `identifier`. -/
def grant (c : Config) (identifier : String) (now : Instant) (s : State) :
    Bool × State × List Metric :=
  let decision := s.limiter.allow c.rate now identifier
  (decision.1, { s with limiter := decision.2.1 }, decision.2.2)

/-- Admissions `identifier` has left. -/
def remaining (c : Config) (identifier : String) (now : Instant) (s : State) : Nat :=
  s.limiter.remaining c.rate now identifier

/-- Forgets expired admissions; answers how many identifiers went. -/
def sweep (c : Config) (now : Instant) (s : State) : Nat × State × List Metric :=
  let swept := s.limiter.sweep c.rate now
  (swept.1, { s with limiter := swept.2.1 }, swept.2.2)

/-- Admission followed by the protected call. -/
def execute (c : Config) (jitter : Retry.Jitter) (identifier : String)
    (operation : Operation ε α) (clock : Readings) (s : State) : Report ε α :=
  let admission := grant c identifier clock.asked s
  if admission.1 then
    let report := run c jitter operation clock admission.2.1
    { report with metrics := admission.2.2 ++ report.metrics }
  else ⟨.error (.rateLimited identifier), admission.2.1, 0, [], 0, admission.2.2⟩

end Courier.Pipeline
