/-
# Courier.Store.Query -- operations as SQL

A database keeps a record as a `Row` of the table `notifications`: statuses and
kinds by name, moments as microseconds since the start of 2000, and the number of
retries as a signed number of 32 bits, which wraps.  `Row.ofNotification` and
`Row.notification` go between a record and its row; a row whose status or kind has
no such name is refused, the status first, and a negative number of retries counts
as none.

Every operation is one statement with parameters (`Query.sql`, `Query.parameters`).
-/
import Courier.Store

namespace Courier.Store

set_option autoImplicit false

/-- A value in SQL. -/
inductive Value where
  | null
  | text (s : String)
  | integer (n : Int)
  /-- Microseconds since the start of 2000 in UTC. -/
  | moment (micros : Int)
  deriving DecidableEq

/-- A row of the table of notifications. -/
structure Row where
  id : String
  recipient : String
  subject : String
  body : String
  status : String
  kind : String
  retryCount : Int
  createdAt : Int
  sentAt : Option Int
  error : Option String
  deriving DecidableEq

/-- A number of 32 bits, read as signed. -/
def signed (n : UInt32) : Int :=
  if n.toNat < 0x80000000 then n.toNat else (n.toNat : Int) - 0x100000000

/-- A signed number as a number of 32 bits, zero when it is negative. -/
def unsigned (n : Int) : UInt32 := .ofNat n.toNat

namespace Row

def ofNotification (n : Notification) : Row where
  id := n.id
  recipient := n.recipient
  subject := n.subject
  body := n.body
  status := n.status.name
  kind := n.kind.name
  retryCount := signed n.retryCount
  createdAt := n.createdAt.microsSince2000
  sentAt := n.sentAt.map Timestamp.microsSince2000
  error := n.error

/-- The record a row holds. -/
def notification (r : Row) : Except ServiceError Notification :=
  match Notification.Status.ofName? r.status with
  | none => .error (.database (Notification.Status.unknown r.status))
  | some status =>
      match Notification.Kind.ofName? r.kind with
      | none => .error (.database (Notification.Kind.unknown r.kind))
      | some kind => .ok
          { id := r.id
            recipient := r.recipient
            subject := r.subject
            body := r.body
            status := status
            kind := kind
            retryCount := unsigned r.retryCount
            createdAt := .ofMicrosSince2000 r.createdAt
            sentAt := r.sentAt.map .ofMicrosSince2000
            error := r.error }

end Row

/-- A statement with what it is about. -/
inductive Query where
  | insert (row : Row)
  | select (id : String)
  | setStatus (status id : String)
  | setSent (status : String) (sentAt : Int) (retries : Int) (id : String)
  | setFailed (status error : String) (retries : Int) (id : String)
  | ping
  deriving DecidableEq

namespace Query

/-- The statement's text. -/
def sql : Query → String
  | .insert _ =>
      "INSERT INTO notifications (id, to_email, subject, body, status, type, retry_count, " ++
        "created_at, sent_at, error) VALUES ($1, $2, $3, $4, $5, $6, $7, $8, $9, $10)"
  | .select _ =>
      "SELECT id, to_email, subject, body, status, type, retry_count, created_at, sent_at, " ++
        "error FROM notifications WHERE id = $1"
  | .setStatus .. => "UPDATE notifications SET status = $1 WHERE id = $2"
  | .setSent .. =>
      "UPDATE notifications SET status = $1, sent_at = $2, retry_count = $3 WHERE id = $4"
  | .setFailed .. =>
      "UPDATE notifications SET status = $1, error = $2, retry_count = $3 WHERE id = $4"
  | .ping => "SELECT 1"

/-- The values of the statement's parameters, in order. -/
def parameters : Query → List Value
  | .insert r =>
      [.text r.id, .text r.recipient, .text r.subject, .text r.body, .text r.status, .text r.kind,
        .integer r.retryCount, .moment r.createdAt, r.sentAt.elim .null .moment,
        r.error.elim .null .text]
  | .select id => [.text id]
  | .setStatus status id => [.text status, .text id]
  | .setSent status sentAt retries id =>
      [.text status, .moment sentAt, .integer retries, .text id]
  | .setFailed status error retries id =>
      [.text status, .text error, .integer retries, .text id]
  | .ping => []

/-- The statement that performs an operation. -/
def ofOperation : Operation → Query
  | .create n => .insert (.ofNotification n)
  | .get id => .select id
  | .setStatus id status => .setStatus status.name id
  | .markSent id sentAt retries =>
      .setSent Notification.Status.sent.name sentAt.microsSince2000 (signed retries) id
  | .markFailed id error retries =>
      .setFailed Notification.Status.failed.name error (signed retries) id
  | .ping => .ping

end Query

end Courier.Store
