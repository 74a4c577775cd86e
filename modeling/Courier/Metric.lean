/-
# Courier.Metric -- what the library counts

Every operation answers the `Metric`s it recorded, oldest first, next to its
result; nothing is counted behind its back.  How they add up into samples and
how those are written is `Courier.Metric.Exposition`.
-/
import Courier.Notification

namespace Courier

set_option autoImplicit false

/-! ## What is told apart -/

namespace Circuit

/-- Where a circuit breaker stands. -/
inductive State where
  /-- Calls pass through. -/
  | closed
  /-- Calls are turned away. -/
  | opened
  /-- A few calls pass, to find out whether the dependency has recovered. -/
  | halfOpen
  deriving DecidableEq

def State.name : State → String
  | .closed => "closed"
  | .opened => "open"
  | .halfOpen => "half_open"

end Circuit

namespace Metric

/-- How a circuit breaker answered a call. -/
inductive CallResult where
  | rejected
  | success
  | failure
  deriving DecidableEq

/-- How a retry loop ended. -/
inductive RetryEnding where
  | success
  | failure
  | cancelled
  deriving DecidableEq

/-- What became of an email request. -/
inductive EmailStatus where
  | rateLimited
  | sent
  | failed
  | circuitOpen
  deriving DecidableEq

def CallResult.name : CallResult → String
  | .rejected => "rejected"
  | .success => "success"
  | .failure => "failure"

def RetryEnding.name : RetryEnding → String
  | .success => "success"
  | .failure => "failure"
  | .cancelled => "cancelled"

def EmailStatus.name : EmailStatus → String
  | .rateLimited => "rate_limited"
  | .sent => "sent"
  | .failed => "failed"
  | .circuitOpen => "circuit_open"

end Metric

/-! ## What is recorded -/

/-- One recorded event. -/
inductive Metric where
  /-- A circuit breaker moved from one state to another. -/
  | transition (source target : Circuit.State)
  /-- A circuit breaker in `state` turned a call away or took its outcome. -/
  | call (state : Circuit.State) (result : Metric.CallResult)
  /-- A rate limiter granted or denied an admission. -/
  | decision (allowed : Bool)
  /-- A sweep removed this many identifiers. -/
  | evicted (count : Nat)
  /-- A timed operation finished, or ran past its limit. -/
  | timed (completed : Bool)
  /-- A retry loop ended after this many attempts. -/
  | retried (ending : Metric.RetryEnding) (attempts : Nat)
  /-- A request to send an email was dealt with. -/
  | email (kind : Notification.Kind) (status : Metric.EmailStatus)
  /-- An email ended, sent or not, after this many transport attempts. -/
  | emailAttempts (sent : Bool) (attempts : Nat)
  deriving DecidableEq

end Courier
