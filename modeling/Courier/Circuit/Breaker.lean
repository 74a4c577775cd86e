/-
# Courier.Circuit.Breaker -- a circuit breaker that counts consecutive failures

A breaker is a plain state and every operation a pure step on it.  A call is
first admitted (`Breaker.enter`), which hands out a `Permit` or turns it away;
later the permit is settled with the call's outcome (`Breaker.settle`), or
dropped when the call was abandoned (`Breaker.abandon`).  Any number of permits
may be out at once.

* closed: every call passes; `failureThreshold` failures in a row open the circuit;
* open: calls are turned away until `cooldown` has passed since the last failure,
  then the next call finds the circuit half open;
* half open: at most `probes` calls are out as probes; one failure opens the
  circuit again, `successThreshold` successes close it.
-/
import Courier.Duration
import Courier.Metric

namespace Courier.Circuit

set_option autoImplicit false

/-- When a breaker opens, closes and lets probes through. -/
structure Config where
  /-- Failures in a row that open the circuit. -/
  failureThreshold : UInt32
  /-- Successes in the half-open state that close it. -/
  successThreshold : UInt32
  /-- Time after the last failure before a probe is let through. -/
  cooldown : Duration
  /-- Probes that may be out at once; zero counts as one. -/
  probes : UInt32

namespace Config

def standard : Config where
  failureThreshold := 5
  successThreshold := 2
  cooldown := .ofSeconds 30
  probes := 1

/-- Probes actually let through at once: at least one. -/
def probeLimit (c : Config) : Nat := max 1 c.probes.toNat

end Config

/-- What a breaker remembers. -/
structure Breaker where
  state : State
  /-- Failures in a row since the last success or reset. -/
  failures : Nat
  /-- Successes since the circuit became half open. -/
  successes : Nat
  /-- When the latest failure was recorded. -/
  lastFailure : Option Instant
  /-- Probes counted as being out. -/
  inFlight : Nat
  deriving DecidableEq

/-- Leave to make one call. -/
structure Permit where
  /-- The call was admitted as a probe of a half-open circuit. -/
  probe : Bool
  deriving DecidableEq

namespace Breaker

/-- A closed circuit with nothing recorded. -/
def initial : Breaker where
  state := .closed
  failures := 0
  successes := 0
  lastFailure := none
  inFlight := 0

/-- Whether an open circuit has waited long enough to try a probe. -/
def cooled (c : Config) (now : Instant) (b : Breaker) : Bool :=
  match b.lastFailure with
  | none => true
  | some failure => decide (c.cooldown.nanos ≤ now.since failure)

/-- The breaker moved to `target`, with the transition recorded if there is one. -/
def moveTo (b : Breaker) (target : State) : Breaker × List Metric :=
  if b.state = target then (b, [])
  else ({ b with state := target }, [.transition b.state target])

/-- The answer to a call that asks to be let through. -/
structure Admission where
  permit : Option Permit
  breaker : Breaker
  metrics : List Metric

/-- Admission in a circuit that is not open: a half-open one hands out probes up
to its limit, a closed one lets everything through. -/
def admitThrough (c : Config) (b : Breaker) : Admission :=
  if b.state = .halfOpen then
    if c.probeLimit ≤ b.inFlight then ⟨none, b, [.call .halfOpen .rejected]⟩
    else ⟨some ⟨true⟩, { b with inFlight := b.inFlight + 1 }, []⟩
  else ⟨some ⟨false⟩, b, []⟩

/-- Asks for leave to make a call at `now`. -/
def enter (c : Config) (now : Instant) (b : Breaker) : Admission :=
  if b.state = .opened then
    if b.cooled c now then
      let moved := b.moveTo .halfOpen
      let through := admitThrough c { moved.1 with successes := 0, inFlight := 0 }
      { through with metrics := moved.2 ++ through.metrics }
    else ⟨none, b, [.call .opened .rejected]⟩
  else admitThrough c b

/-- A probe's place given back. -/
def release (p : Permit) (b : Breaker) : Breaker :=
  if p.probe then { b with inFlight := b.inFlight - 1 } else b

/-- Records a success. -/
def recordSuccess (c : Config) (b : Breaker) : Breaker × List Metric :=
  match b.state with
  | .halfOpen =>
      let counted := { b with successes := b.successes + 1 }
      if c.successThreshold.toNat ≤ counted.successes then
        let moved := counted.moveTo .closed
        ({ moved.1 with failures := 0, successes := 0 }, moved.2)
      else (counted, [])
  | .closed => ({ b with failures := 0 }, [])
  | .opened => (b, [])

/-- Records a failure at `now`. -/
def recordFailure (c : Config) (now : Instant) (b : Breaker) : Breaker × List Metric :=
  let counted := { b with failures := b.failures + 1, lastFailure := some now }
  if b.state = .halfOpen ∨ c.failureThreshold.toNat ≤ counted.failures then
    let moved := counted.moveTo .opened
    ({ moved.1 with failures := 0 }, moved.2)
  else (counted, [])

/-- Settles a permit with the outcome of its call. -/
def settle (c : Config) (now : Instant) (p : Permit) (success : Bool) (b : Breaker) :
    Breaker × List Metric :=
  let released := b.release p
  let recorded := if success then released.recordSuccess c else released.recordFailure c now
  (recorded.1, .call b.state (if success then .success else .failure) :: recorded.2)

/-- Takes back a permit whose call was abandoned: no outcome is recorded. -/
def abandon (p : Permit) (b : Breaker) : Breaker := b.release p

/-- A call made from start to end with nothing in between: `none` when it is
turned away, else the outcome it was given. -/
def call {ε α : Type} (c : Config) (start finish : Instant) (outcome : Except ε α) (b : Breaker) :
    Option (Except ε α) × Breaker × List Metric :=
  let admission := b.enter c start
  match admission.permit with
  | none => (none, admission.breaker, admission.metrics)
  | some permit =>
      let settled := admission.breaker.settle c finish permit outcome.isOk
      (some outcome, settled.1, admission.metrics ++ settled.2)

end Breaker

/-- Why a protected call has no value. -/
inductive CallError (ε : Type) where
  /-- The circuit turned the call away. -/
  | rejected
  /-- The call itself failed. -/
  | inner (error : ε)

namespace CallError

def message {ε : Type} (describe : ε → String) : CallError ε → String
  | .rejected => "Circuit breaker is open"
  | .inner error => describe error

/-- The call's own error, if it ran. -/
def inner? {ε : Type} : CallError ε → Option ε
  | .rejected => none
  | .inner error => some error

end CallError

end Courier.Circuit
