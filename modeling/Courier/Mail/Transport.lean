/-
# Courier.Mail.Transport -- handing emails over

A transport has a sender and, unless its host is blank, a server.  Every email needs
a recipient that is a mailbox; sender and recipient are written into the email and
read back from it, and an email in which one of them does not read has none.  Without
a server that is all that happens.  What the server makes of an email, or of being
asked whether it is there, is an argument (`Server`).
-/
import Courier.Config
import Courier.Mail.Mailbox
import Courier.Transient

namespace Courier.Mail

set_option autoImplicit false

/-- An email ready to be handed over. -/
structure Outgoing where
  recipient : String
  subject : String
  body : String
  deriving DecidableEq

/-- What a server answers. -/
structure Server where
  /-- To an email. -/
  deliver : Outgoing → Except DeliveryError Unit
  /-- To the question whether it takes connections. -/
  greet : Except DeliveryError Bool

/-- A server to which there is no way. -/
def Server.unreachable (reason : String) : Server where
  deliver := fun _ => .error (.transport ("Connection error: " ++ reason) false)
  greet := .error (.transport ("Connection error: " ++ reason) false)

/-- A way to hand emails over. -/
structure Transport where
  sender : Mailbox
  /-- Whether there is a server. -/
  enabled : Bool

namespace Transport

/-- The transport for some settings, if their sender is a mailbox. -/
def ofConfig (c : Config.Smtp) : Except DeliveryError Transport :=
  match Mailbox.read c.sender.toList with
  | .error e => .error (.address ("Invalid FROM_EMAIL address: " ++ e.message))
  | .ok sender => .ok ⟨sender, !(Text.trim c.host.toList).isEmpty⟩

/-- What is wrong with an email between two mailboxes, if anything is. -/
def envelopeFault (sender recipient : Mailbox) : Option DeliveryError :=
  if !sender.readsBack then some (.message "missing source address, invalid envelope")
  else if !recipient.readsBack then
    some (.message "missing destination address, invalid envelope")
  else none

/-- Hands an email over. -/
def send (t : Transport) (server : Server) (email : Outgoing) : Except DeliveryError Unit :=
  match Mailbox.read email.recipient.toList with
  | .error e => .error (.address ("Invalid recipient email address: " ++ e.message))
  | .ok recipient =>
      match envelopeFault t.sender recipient with
      | some fault => .error fault
      | none => if t.enabled then server.deliver email else .ok ()

/-- Finds out whether the server takes connections. -/
def testConnection (t : Transport) (server : Server) : Except DeliveryError Unit :=
  if t.enabled then
    match server.greet with
    | .error e => .error e
    | .ok true => .ok ()
    | .ok false => .error (.transport "SMTP server did not accept the connection" false)
  else .ok ()

end Transport

end Courier.Mail
