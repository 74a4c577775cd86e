/-
# Courier.Service -- sending email notifications

A request to send an email is checked and sanitised, charged to the recipient's
quota, written down as a pending record, handed to the transport through the
protecting layers, and marked in the record as sent or failed:

* an invalid request and an exhausted quota leave no trace but the quota's;
* a record that cannot be written ends the request before the transport is asked;
* a record that cannot be updated after a delivery is that error, although the email
  is out; after a failure both errors are told.

Everything the outside does is an argument: what the transport answers to each
invocation, which writes to the store fail, the fresh id, and the clocks.
-/
import Courier.Mail.Transport
import Courier.Pipeline
import Courier.Sanitize
import Courier.Store

namespace Courier.Service

set_option autoImplicit false

/-- What the service remembers. -/
structure State where
  pipeline : Pipeline.State
  store : Store

def State.initial : State := ⟨.initial, .empty⟩

/-- Writes to the store that fail, and how. -/
structure Faults where
  create : Option ServiceError
  sent : Option ServiceError
  failed : Option ServiceError

def Faults.none : Faults := ⟨.none, .none, .none⟩

/-- A write that fails if it is meant to, and then changes nothing. -/
def attempt (fault : Option ServiceError) (write : Except ServiceError Store) :
    Except ServiceError Store :=
  match fault with
  | some e => .error e
  | none => write

/-- What surrounds one request. -/
structure Setting where
  config : Pipeline.Config
  jitter : Retry.Jitter
  /-- What the transport does with an email, by invocation. -/
  transport : Mail.Outgoing → Nat → Work (Except Mail.DeliveryError Unit)
  faults : Faults
  /-- The number the record's id is made from. -/
  fresh : Nat
  /-- The clock of limiter and breaker. -/
  clock : Pipeline.Readings
  createdAt : Timestamp
  finishedAt : Timestamp

/-- All there is to see of one request. -/
structure Report where
  outcome : Except ServiceError Notification.Receipt
  state : State
  /-- The emails handed to the transport, in order. -/
  emails : List Mail.Outgoing
  metrics : List Metric

/-- A request that has passed its checks. -/
structure Draft where
  recipient : String
  subject : String
  body : String
  kind : Notification.Kind

/-- Checks and sanitises a request. -/
def draft (r : Notification.Request) : Except ServiceError Draft :=
  match Validation.violations r with
  | [] =>
      (Sanitize.email r.recipient).map fun recipient =>
        ⟨recipient, Sanitize.subject r.subject, Sanitize.body r.body, r.kind⟩
  | violations => .error (.validation (.fields violations))

def Draft.outgoing (d : Draft) : Mail.Outgoing := ⟨d.recipient, d.subject, d.body⟩

/-- The protected operation of a draft. -/
def operation (setting : Setting) (d : Draft) : Pipeline.Operation Mail.DeliveryError Unit where
  work := setting.transport d.outgoing
  timedOut := .ofTimedOut
  shouldRetry := Mail.DeliveryError.isRetryable

/-- What a failure of the layers is to the service, and how it is counted. -/
def failure : Pipeline.Failure Mail.DeliveryError → ServiceError × Metric.EmailStatus
  | .circuitOpen => (.circuitOpen, .circuitOpen)
  | .failed attempts error => (.sendFailed attempts error, .failed)
  | .rateLimited recipient => (.rateLimited recipient, .rateLimited)

/-- Attempts beyond the first. -/
def retries (attempts : Nat) : UInt32 := .ofNat (attempts - 1)

/-- The end of a request whose email was delivered. -/
def finishSent (setting : Setting) (d : Draft) (id : String) (attempts : Nat) (store : Store) :
    Except ServiceError Notification.Receipt × Store × List Metric :=
  match attempt setting.faults.sent (store.markSent id setting.finishedAt (retries attempts)) with
  | .error e => (.error e, store, [])
  | .ok store =>
      (.ok
        { id := id
          status := .sent
          message := "Email sent successfully"
          attempts := .ofNat attempts
          timestamp := setting.finishedAt },
        store, [.email d.kind .sent, .emailAttempts true attempts])

/-- The end of a request whose email was not delivered. -/
def finishFailed (setting : Setting) (d : Draft) (id : String)
    (reason : Pipeline.Failure Mail.DeliveryError) (store : Store) :
    Except ServiceError Notification.Receipt × Store × List Metric :=
  let (error, status) := failure reason
  let attempts := reason.attempts
  let metrics : List Metric := .email d.kind status ::
    (if attempts = 0 then [] else [.emailAttempts false attempts])
  match attempt setting.faults.failed (store.markFailed id error.message (retries attempts)) with
  | .ok store => (.error error, store, metrics)
  | .error e => (.error (.statusUpdate error e), store, metrics)

/-- Delivery of a draft whose record has been written. -/
def deliver (setting : Setting) (d : Draft) (id : String) (s : State) : Report :=
  let run :=
    Pipeline.run setting.config setting.jitter (operation setting d) setting.clock s.pipeline
  let (outcome, store, metrics) := match run.outcome with
    | .ok completed => finishSent setting d id completed.attempts s.store
    | .error reason => finishFailed setting d id reason s.store
  ⟨outcome, ⟨run.state, store⟩, List.replicate run.calls d.outgoing, run.metrics ++ metrics⟩

/-- Sends one email. -/
def send (setting : Setting) (r : Notification.Request) (s : State) : Report :=
  match draft r with
  | .error e => ⟨.error e, s, [], []⟩
  | .ok d =>
      let (allowed, pipeline, decision) :=
        Pipeline.grant setting.config d.recipient setting.clock.asked s.pipeline
      let s := { s with pipeline := pipeline }
      if allowed then
        let id := Notification.idOf setting.fresh
        let record := Notification.fresh id d.recipient d.subject d.body d.kind setting.createdAt
        match attempt setting.faults.create (s.store.create record) with
        | .error e => ⟨.error e, s, [], decision⟩
        | .ok store =>
            let report := deliver setting d id { s with store := store }
            { report with metrics := decision ++ report.metrics }
      else
        ⟨.error (.rateLimited d.recipient), s, [], decision ++ [.email d.kind .rateLimited]⟩

/-- The record with an id. -/
def status (id : String) (s : State) : Except ServiceError Notification := s.store.get id

/-- What a recipient has left in the current window. -/
def quota (config : Pipeline.Config) (recipient : String) (now : Instant) (s : State) :
    Notification.Quota :=
  let recipient := Sanitize.canonical recipient
  { recipient := recipient
    remaining := .ofNat (Pipeline.remaining config recipient now s.pipeline)
    allowance := config.rate.maxRequests
    windowSeconds := .ofNat config.rate.window.seconds }

end Courier.Service
