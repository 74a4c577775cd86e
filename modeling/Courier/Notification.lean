/-
# Courier.Notification -- email notifications and their records

A `Request` asks for one email; a `Notification` is the stored record of it, and
moves from `pending` to `sent` or `failed`.  `Status` and `Kind` have one name
each, used in storage, on the wire and as metric labels; reading a name back is
exact, with no trimming and no change of case.
-/
import Courier.Timestamp

namespace Courier

set_option autoImplicit false

namespace Notification

/-- Delivery state of a notification. -/
inductive Status where
  | pending
  | sent
  | failed
  deriving DecidableEq

/-- What an email is about. -/
inductive Kind where
  | bookingConfirmation
  | welcomeEmail
  | paymentReceipt
  | passwordReset
  deriving DecidableEq

namespace Status

def all : List Status := [.pending, .sent, .failed]

def name : Status → String
  | .pending => "pending"
  | .sent => "sent"
  | .failed => "failed"

/-- The status called `text`. -/
def ofName? (text : String) : Option Status := all.find? (·.name == text)

/-- What is said of a text that names no status. -/
def unknown (text : String) : String := "unknown notification status: " ++ text

end Status

namespace Kind

def all : List Kind := [.bookingConfirmation, .welcomeEmail, .paymentReceipt, .passwordReset]

def name : Kind → String
  | .bookingConfirmation => "booking_confirmation"
  | .welcomeEmail => "welcome_email"
  | .paymentReceipt => "payment_receipt"
  | .passwordReset => "password_reset"

/-- The kind called `text`. -/
def ofName? (text : String) : Option Kind := all.find? (·.name == text)

/-- What is said of a text that names no kind. -/
def unknown (text : String) : String := "unknown notification type: " ++ text

end Kind

end Notification

/-- The stored record of one email. -/
structure Notification where
  id : String
  recipient : String
  subject : String
  body : String
  status : Notification.Status
  kind : Notification.Kind
  /-- Attempts beyond the first one. -/
  retryCount : UInt32
  createdAt : Timestamp
  sentAt : Option Timestamp
  error : Option String
  deriving DecidableEq

namespace Notification

/-- Hexadecimal digits of a number, padded with zeros to 32. -/
def hex32 (n : Nat) : List Char :=
  let digits := Nat.toDigits 16 (n % Nat.pow 2 128)
  List.replicate (32 - digits.length) '0' ++ digits

/-- The id made from a number of 128 bits. -/
def idOf (n : Nat) : String := "notif_" ++ String.ofList (hex32 n)

/-- A record that has just been accepted for delivery. -/
def fresh (id recipient subject body : String) (kind : Kind) (createdAt : Timestamp) :
    Notification where
  id := id
  recipient := recipient
  subject := subject
  body := body
  status := .pending
  kind := kind
  retryCount := 0
  createdAt := createdAt
  sentAt := none
  error := none

/-- The record after a delivery that needed `retries` further attempts. -/
def markSent (n : Notification) (sentAt : Timestamp) (retries : UInt32) : Notification :=
  { n with status := .sent, sentAt := some sentAt, retryCount := retries }

/-- The record after a delivery that was given up. -/
def markFailed (n : Notification) (error : String) (retries : UInt32) : Notification :=
  { n with status := .failed, error := some error, retryCount := retries }

/-- What is asked for: one email to one recipient. -/
structure Request where
  recipient : String
  subject : String
  body : String
  kind : Kind

/-- The answer to a request that was delivered. -/
structure Receipt where
  id : String
  status : Status
  message : String
  attempts : UInt32
  timestamp : Timestamp

/-- What is left of a recipient's quota. -/
structure Quota where
  recipient : String
  remaining : UInt64
  allowance : UInt64
  windowSeconds : UInt64

end Notification

end Courier
