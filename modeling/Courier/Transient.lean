/-
# Courier.Transient -- which errors are worth another attempt

An error of delivery is judged by its kind: timeouts and transient transport errors are worth
another attempt; an email that cannot be addressed or built, or that the server refuses for
good, is not.  Any other error is judged by its text: it counts as transient when the text, in
lower case, holds one of a few words.
-/
import Courier.Text.Lowercase
import Courier.Timeout

namespace Courier

set_option autoImplicit false

/-! ## By kind -/

namespace Mail

/-- Why an email was not handed over. -/
inductive DeliveryError where
  /-- An address is no address. -/
  | address (reason : String)
  /-- The email cannot be put together. -/
  | message (reason : String)
  /-- The server, or the way to it, failed. -/
  | transport (reason : String) (permanent : Bool)
  /-- An attempt ran past its limit. -/
  | timedOut (limit : Duration)
  deriving DecidableEq

namespace DeliveryError

def describe : DeliveryError → String
  | .address reason => "Invalid email address: " ++ reason
  | .message reason => "Failed to build email message: " ++ reason
  | .transport reason _ => "SMTP error: " ++ reason
  | .timedOut limit => "SMTP attempt timed out after " ++ limit.render

/-- Whether another attempt could succeed. -/
def isRetryable : DeliveryError → Bool
  | .timedOut _ => true
  | .transport _ permanent => !permanent
  | .address _ => false
  | .message _ => false

/-- A limit that cut off an attempt. -/
def ofTimedOut (t : TimedOut) : DeliveryError := .timedOut t.limit

end DeliveryError

end Mail

/-! ## By text -/

namespace Transient

/-- Words that mark an error as transient. -/
def words : List String :=
  ["timeout", "connection refused", "network", "temporary", "busy", "overloaded"]

/-- Whether `part` occurs in `text`. -/
def occursIn (part : List Char) : List Char → Bool
  | [] => part.isEmpty
  | c :: text => part.isPrefixOf (c :: text) || occursIn part text

/-- Whether a text marks an error as transient. -/
def isTransient (message : String) : Bool :=
  let text := Text.lowercase message.toList
  words.any fun word => occursIn word.toList text

/-- Whether an error, if there is one, is transient. -/
def isTransientError (message : Option String) : Bool := message.any isTransient

end Transient

end Courier
