/-
# Courier.Notification.Wire -- notifications as JSON

How requests, receipts, records and quotas are written as JSON objects, and the
decoders that read them.  Statuses and kinds are their names; optional members are
null when absent.
-/
import Courier.Json.Decoder
import Courier.Notification
import Courier.Timestamp.Rfc3339

namespace Courier.Notification

set_option autoImplicit false

open Json (Decoder)

/-! ## Parts -/

/-- A number of 32 bits. -/
def word32 : Decoder UInt32 := fun source d =>
  (Decoder.natural (UInt32.size - 1) "u32" source d).map UInt32.ofNat

/-- A number of 64 bits. -/
def word64 (name : String) : Decoder UInt64 := fun source d =>
  (Decoder.natural (UInt64.size - 1) name source d).map UInt64.ofNat

def timestamp : Decoder Timestamp :=
  Decoder.parsed "an RFC 3339 formatted date and time string" fun text =>
    (Timestamp.read text).mapError Timestamp.ReadError.message

def Status.decoder : Decoder Status := Decoder.variant (Status.all.map Status.name) Status.ofName?

def Kind.decoder : Decoder Kind := Decoder.variant (Kind.all.map Kind.name) Kind.ofName?

def Status.toJson (s : Status) : Json := .string s.name

def Kind.toJson (k : Kind) : Json := .string k.name

/-- A timestamp as JSON. -/
def timestampJson (t : Timestamp) : Json := .string t.render

/-! ## Requests -/

def Request.toJson (r : Request) : Json := .object
  [("to", .string r.recipient), ("subject", .string r.subject), ("body", .string r.body),
    ("type", r.kind.toJson)]

def Request.shape : Decoder.Shape := .struct "SendEmailRequest"
  [Decoder.member "to" Decoder.string, Decoder.member "subject" Decoder.string,
    Decoder.member "body" Decoder.string, Decoder.member "type" Kind.decoder]

def Request.decoder : Decoder Request := fun source d => do
  let slots ← Decoder.slots Request.shape source d
  pure
    { recipient := ← Decoder.required source slots "to" Decoder.string
      subject := ← Decoder.required source slots "subject" Decoder.string
      body := ← Decoder.required source slots "body" Decoder.string
      kind := ← Decoder.required source slots "type" Kind.decoder }

/-! ## Receipts -/

def Receipt.toJson (r : Receipt) : Json := .object
  [("id", .string r.id), ("status", r.status.toJson), ("message", .string r.message),
    ("attempts", .ofNat r.attempts.toNat), ("timestamp", timestampJson r.timestamp)]

def Receipt.shape : Decoder.Shape := .struct "SendEmailResponse"
  [Decoder.member "id" Decoder.string, Decoder.member "status" Status.decoder,
    Decoder.member "message" Decoder.string, Decoder.member "attempts" word32,
    Decoder.member "timestamp" Notification.timestamp]

def Receipt.decoder : Decoder Receipt := fun source d => do
  let slots ← Decoder.slots Receipt.shape source d
  pure
    { id := ← Decoder.required source slots "id" Decoder.string
      status := ← Decoder.required source slots "status" Status.decoder
      message := ← Decoder.required source slots "message" Decoder.string
      attempts := ← Decoder.required source slots "attempts" word32
      timestamp := ← Decoder.required source slots "timestamp" Notification.timestamp }

/-! ## Quotas -/

def Quota.toJson (q : Quota) : Json := .object
  [("email", .string q.recipient), ("remaining_requests", .ofNat q.remaining.toNat),
    ("max_requests", .ofNat q.allowance.toNat), ("window_secs", .ofNat q.windowSeconds.toNat)]

def Quota.shape : Decoder.Shape := .struct "RateLimitStatus"
  [Decoder.member "email" Decoder.string, Decoder.member "remaining_requests" (word64 "usize"),
    Decoder.member "max_requests" (word64 "usize"), Decoder.member "window_secs" (word64 "u64")]

def Quota.decoder : Decoder Quota := fun source d => do
  let slots ← Decoder.slots Quota.shape source d
  pure
    { recipient := ← Decoder.required source slots "email" Decoder.string
      remaining := ← Decoder.required source slots "remaining_requests" (word64 "usize")
      allowance := ← Decoder.required source slots "max_requests" (word64 "usize")
      windowSeconds := ← Decoder.required source slots "window_secs" (word64 "u64") }

/-! ## Records -/

def toJson (n : Notification) : Json := .object
  [("id", .string n.id), ("to", .string n.recipient), ("subject", .string n.subject),
    ("body", .string n.body), ("status", n.status.toJson), ("type", n.kind.toJson),
    ("retry_count", .ofNat n.retryCount.toNat), ("created_at", timestampJson n.createdAt),
    ("sent_at", .ofOption timestampJson n.sentAt), ("error", .ofOption .string n.error)]

def shape : Decoder.Shape := .struct "Notification"
  [Decoder.member "id" Decoder.string, Decoder.member "to" Decoder.string,
    Decoder.member "subject" Decoder.string, Decoder.member "body" Decoder.string,
    Decoder.member "status" Status.decoder, Decoder.member "type" Kind.decoder,
    Decoder.member "retry_count" word32, Decoder.member "created_at" timestamp,
    Decoder.member "sent_at" (Decoder.optional timestamp),
    Decoder.member "error" (Decoder.optional Decoder.string)]

def decoder : Decoder Notification := fun source d => do
  let slots ← Decoder.slots shape source d
  pure
    { id := ← Decoder.required source slots "id" Decoder.string
      recipient := ← Decoder.required source slots "to" Decoder.string
      subject := ← Decoder.required source slots "subject" Decoder.string
      body := ← Decoder.required source slots "body" Decoder.string
      status := ← Decoder.required source slots "status" Status.decoder
      kind := ← Decoder.required source slots "type" Kind.decoder
      retryCount := ← Decoder.required source slots "retry_count" word32
      createdAt := ← Decoder.required source slots "created_at" timestamp
      sentAt := ← Decoder.lenient source slots "sent_at" timestamp
      error := ← Decoder.lenient source slots "error" Decoder.string }

end Courier.Notification
