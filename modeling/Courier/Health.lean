/-
# Courier.Health -- is everything the service needs there?

Checks are registered by name, a later one in the place of an earlier one of the
same name, and run at the same time; the service is healthy when every check
passes.  A check that fails says why.
-/
import Courier.Circuit.Breaker
import Courier.Json
import Courier.Mail.Transport
import Courier.ServiceError
import Courier.Timestamp.Rfc3339

namespace Courier.Health

set_option autoImplicit false

/-- What a check does: the milliseconds it takes, and how it ends. -/
structure Check where
  name : String
  takes : Nat
  outcome : Except String Unit

/-- Registers a check among others sorted by name. -/
def register (c : Check) : List Check → List Check
  | [] => [c]
  | other :: rest =>
      if c.name = other.name then c :: rest
      else if c.name < other.name then c :: other :: rest
      else other :: register c rest

/-- A passed or failed check. -/
structure Result where
  name : String
  error : Option String
  takes : Nat

/-- The results of all checks, sorted by name. -/
structure Report where
  results : List Result
  deriving Inhabited

def Check.result (c : Check) : Result where
  name := c.name
  error := match c.outcome with
    | .ok () => none
    | .error e => some e
  takes := c.takes

/-- Runs checks given in the order of their registration. -/
def run (checks : List Check) : Report :=
  ⟨(checks.foldl (fun known c => register c known) []).map Check.result⟩

namespace Report

def isHealthy (r : Report) : Bool := r.results.all (·.error.isNone)

/-- Milliseconds until the slowest check is over. -/
def elapsed (r : Report) : Nat := r.results.foldl (fun longest c => max longest c.takes) 0

end Report

/-- What a result is called. -/
def statusName (healthy : Bool) : String := if healthy then "healthy" else "unhealthy"

/-- A result as JSON. -/
def Result.toJson (now : Timestamp) (r : Result) : Json := .object
  ([("status", .string (statusName r.error.isNone))]
    ++ (r.error.map fun e => ("error", Json.string e)).toList
    ++ [("timestamp", .string now.render), ("duration_ms", .ofNat r.takes)])

/-- The results of all checks as JSON. -/
def Report.checksJson (now : Timestamp) (r : Report) : Json :=
  .object (r.results.map fun c => (c.name, c.toJson now))

/-- A report as JSON. -/
def Report.toJson (now : Timestamp) (r : Report) : Json := .object
  [("status", .string (statusName r.isHealthy)), ("timestamp", .string now.render),
    ("checks", r.checksJson now)]

/-! ## Checks -/

/-- Whether records can be reached. -/
def database (name : String) (ping : Except ServiceError Unit) : Check :=
  ⟨name, 0, ping.mapError ServiceError.message⟩

/-- Whether emails can be handed over. -/
def smtp (name : String) (connection : Except Mail.DeliveryError Unit) : Check :=
  ⟨name, 0, connection.mapError Mail.DeliveryError.describe⟩

/-- Whether the circuit that protects the sending of email is not open. -/
def circuit (name : String) (state : Circuit.State) : Check :=
  ⟨name, 0, if state = .opened then .error "email circuit breaker is open" else .ok ()⟩

end Courier.Health
