/-
# Courier.Service.Session -- requests for emails, one after the other

`pending?` is how far a request comes before its email goes to the transport: it has passed
its checks, was granted its admission, and its record has been written.  `submit` is what
becomes of a request, and `session` of a list of them.

The pauses between attempts are the setting's, or drawn at random.  A request that comes to
a pause with nothing to draw from breaks off there: its record stays pending and nobody is
answered, but the emails that went out went out.
-/
import Courier.Pipeline.Session
import Courier.Service

namespace Courier.Service

set_option autoImplicit false

/-- A request whose record has been written. -/
structure Pending where
  draft : Draft
  id : String
  /-- The state in which it is delivered. -/
  state : State

/-- The request with its record, unless it ends before that. -/
def pending? (setting : Setting) (r : Notification.Request) (s : State) : Option Pending :=
  match draft r with
  | .error _ => none
  | .ok d =>
      let admission := Pipeline.grant setting.config d.recipient setting.clock.asked s.pipeline
      let id := Notification.idOf setting.fresh
      let record := Notification.fresh id d.recipient d.subject d.body d.kind setting.createdAt
      match admission.1, attempt setting.faults.create (s.store.create record) with
      | true, .ok store => some ⟨d, id, ⟨admission.2.1, store⟩⟩
      | _, _ => none

/-- A request and what surrounds it. -/
structure Submission where
  request : Notification.Request
  setting : Setting
  /-- A random source, if pauses are drawn from one and the setting's jitter is not used. -/
  draws : Option (Nat → Retry.Jitter.Draw)

namespace Submission

def pauses (x : Submission) : Pipeline.Pauses :=
  match x.draws with
  | none => .adjusted x.setting.jitter
  | some draws => .random draws

/-- The setting with the jitter in force. -/
def inForce (x : Submission) : Setting := { x.setting with jitter := x.pauses.jitter }

/-- The request with its record, unless it ends before that. -/
def pending? (x : Submission) (s : State) : Option Pending :=
  Service.pending? x.inForce x.request s

/-- The protected call that delivers a request. -/
def call (x : Submission) (p : Pending) : Pipeline.Call Mail.DeliveryError Unit where
  operation := operation x.inForce p.draft
  pauses := x.pauses
  clock := x.setting.clock

end Submission

/-- What becomes of a request. -/
structure Turn where
  /-- The answer, unless the request broke off. -/
  answer : Except Retry.Jitter.DrawError (Except ServiceError Notification.Receipt)
  state : State
  /-- The emails handed to the transport, in order. -/
  emails : List Mail.Outgoing
  metrics : List Metric

namespace Turn

def ofReport (report : Report) : Turn :=
  ⟨.ok report.outcome, report.state, report.emails, report.metrics⟩

/-- Whether the request broke off. -/
def isBroken (turn : Turn) : Bool := !turn.answer.isOk

end Turn

/-- What becomes of a request. -/
def submit (x : Submission) (s : State) : Turn :=
  let report := send x.inForce x.request s
  match x.pending? s with
  | none => .ofReport report
  | some p =>
      let delivery := Pipeline.step x.setting.config p.state.pipeline (.run (x.call p))
      match delivery.answer with
      | .broken error =>
          { answer := .error error
            state := ⟨delivery.state, p.state.store⟩
            emails := List.replicate delivery.calls p.draft.outgoing
            metrics := .decision true :: delivery.metrics }
      | _ => .ofReport report

/-- A request, the state that it found, and what became of it. -/
structure Entry where
  submission : Submission
  before : State
  turn : Turn

/-- Requests with what became of them, oldest first. -/
def session : State → List Submission → List Entry
  | _, [] => []
  | s, x :: rest => ⟨x, s, submit x s⟩ :: session (submit x s).state rest

end Courier.Service
