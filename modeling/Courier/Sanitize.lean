/-
# Courier.Sanitize -- what goes into an email

Recipients are trimmed, put in lower case and escaped, and then have to be an
address.  Subjects and bodies are trimmed, cut to a number of characters and then
escaped, so that no entity is ever cut.
-/
import Courier.Mail.Address
import Courier.ServiceError
import Courier.Text.Escape
import Courier.Text.Lowercase
import Courier.Text.Scan

namespace Courier.Sanitize

set_option autoImplicit false

/-- The most characters kept of a subject. -/
def maxSubject : Nat := 255

/-- The most characters kept of a body. -/
def maxBody : Nat := 10000

/-- A recipient as it is looked up: without blanks around it, in lower case. -/
def canonical (recipient : String) : String :=
  String.ofList (Text.lowercase (Text.trim recipient.toList))

/-- A recipient's address, or why it has none. -/
def email (recipient : String) : Except ServiceError String :=
  let escaped := Text.Entity.escape (canonical recipient).toList
  match Mail.Address.read escaped with
  | .ok _ => .ok (String.ofList escaped)
  | .error e => .error (.validation (.other ("Invalid email address: " ++ e.message)))

/-- At most `limit` characters of a text. -/
def text (content : String) (limit : Nat) : String :=
  String.ofList (Text.Entity.escape ((Text.trim content.toList).take limit))

def subject (content : String) : String := text content maxSubject

def body (content : String) : String := text content maxBody

end Courier.Sanitize
