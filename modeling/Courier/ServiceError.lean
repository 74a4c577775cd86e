/-
# Courier.ServiceError -- why the service has no answer

Errors of the service, with their texts.  Those of other parts are taken in as they
are: a `Mail.DeliveryError` as the source of `sendFailed`, and what goes wrong with
a database as the text of `database`.
-/
import Courier.Store.Fault
import Courier.Transient
import Courier.Validation

namespace Courier

set_option autoImplicit false

/-- What is invalid about a request. -/
inductive Invalid where
  /-- Fields break rules. -/
  | fields (violations : List (Validation.Field × Validation.Violation))
  | other (reason : String)

/-- The reason in words. -/
def Invalid.describe : Invalid → String
  | .fields violations =>
      ", ".intercalate
        (violations.map fun (field, violation) => field.name ++ ": " ++ violation.code)
  | .other reason => reason

/-- Why the service has no answer. -/
inductive ServiceError where
  | rateLimited (recipient : String)
  | circuitOpen
  | sendFailed (attempts : Nat) (source : Mail.DeliveryError)
  /-- Sending failed, and so did writing that down. -/
  | statusUpdate (send update : ServiceError)
  | validation (invalid : Invalid)
  | notFound (id : String)
  | database (detail : String)
  | internal (detail : String)

namespace ServiceError

def message : ServiceError → String
  | .rateLimited recipient => "Rate limit exceeded for email: " ++ recipient
  | .circuitOpen => "Email delivery unavailable: circuit breaker is open"
  | .sendFailed attempts source =>
      "Failed to send email after " ++ toString attempts ++ " attempt(s): " ++ source.describe
  | .statusUpdate send update => send.message ++ ", and failed to update status: " ++ update.message
  | .validation invalid => "Validation error: " ++ invalid.describe
  | .notFound id => "Notification not found: " ++ id
  | .database detail => "Database error: " ++ detail
  | .internal detail => "Internal error: " ++ detail

/-- Whether the request is to blame rather than the service. -/
def isClientError : ServiceError → Bool
  | .rateLimited _ => true
  | .validation _ => true
  | .notFound _ => true
  | _ => false

/-- The text of the error behind this one. -/
def source? : ServiceError → Option String
  | .sendFailed _ source => some source.describe
  | _ => none

def ofFault (f : Store.Fault) : ServiceError := .database f.message

def ofMigrationFault (f : Store.MigrationFault) : ServiceError := .database f.message

/-- A query that ran past its limit. -/
def ofTimedOut (t : TimedOut) : ServiceError := .database t.message

end ServiceError

end Courier
