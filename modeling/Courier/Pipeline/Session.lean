/-
# Courier.Pipeline.Session -- requests to a pipeline, one after the other

What is asked of a pipeline, written down as lists of `Event`s, each with the readings
of the clock in its course.  `step` is what becomes of one event: a `Turn`, with the
answer, the state it leaves, the invocations of the operation and the metrics.
`session` is a list of events with their turns.

A protected call has its pauses adjusted by a given jitter, or at random (`Pauses`).  A
call that comes to a delay with nothing to draw from breaks off there
(`Call.brokenTurn`) and has no outcome: its attempts have been timed, no ending of the
retry loop is recorded, and the breaker takes the permit back as of an abandoned call.
The admission it was granted stays granted.
-/
import Courier.Pipeline

namespace Courier.Pipeline

set_option autoImplicit false

/-- How the pauses of a protected call are adjusted. -/
inductive Pauses where
  | adjusted (jitter : Retry.Jitter)
  /-- At random, by what a random source answers. -/
  | random (draws : Nat → Retry.Jitter.Draw)

namespace Pauses

def jitter : Pauses → Retry.Jitter
  | adjusted jitter => jitter
  | random draws => .random draws

/-- What is shown of something that came to these delays: an error where one of them has
nothing to draw from. -/
def drawn {β : Type} (delays : List Duration) (shown : β) :
    Pauses → Except Retry.Jitter.DrawError β
  | adjusted _ => .ok shown
  | random _ => Retry.Jitter.drawn delays shown

end Pauses

/-- A call to protect, and what the clock reads in its course. -/
structure Call (ε α : Type) where
  operation : Operation ε α
  pauses : Pauses
  clock : Readings

/-- One thing asked of a pipeline. -/
inductive Event (ε α : Type) where
  /-- An admission of `identifier`, and then the call. -/
  | execute (identifier : String) (call : Call ε α)
  | run (call : Call ε α)
  | grant (identifier : String) (now : Instant)
  | remaining (identifier : String) (now : Instant)
  | sweep (now : Instant)

/-- What an event is answered. -/
inductive Answer (ε α : Type) where
  | ended (outcome : Except (Failure ε) (Completed α))
  /-- The call broke off. -/
  | broken (error : Retry.Jitter.DrawError)
  | admitted (allowed : Bool)
  | left (count : Nat)
  | swept (count : Nat)

/-- What becomes of an event. -/
structure Turn (ε α : Type) where
  answer : Answer ε α
  state : State
  /-- Invocations of the operation. -/
  calls : Nat
  metrics : List Metric

variable {ε α : Type}

namespace Turn

/-- The turn of a call with a report. -/
def ofReport (report : Report ε α) : Turn ε α :=
  ⟨.ended report.outcome, report.state, report.calls, report.metrics⟩

/-- The turn with metrics recorded before it. -/
def after (turn : Turn ε α) (metrics : List Metric) : Turn ε α :=
  { turn with metrics := metrics ++ turn.metrics }

/-- Whether a call broke off. -/
def isBroken (turn : Turn ε α) : Bool :=
  match turn.answer with
  | .broken _ => true
  | _ => false

/-- Whether a call was denied its admission. -/
def isLimited (turn : Turn ε α) : Bool :=
  match turn.answer with
  | .ended (.error (.rateLimited _)) => true
  | _ => false

variable (turn : Turn ε α) (metrics : List Metric)

@[simp] theorem after_state : (turn.after metrics).state = turn.state := rfl

@[simp] theorem after_calls : (turn.after metrics).calls = turn.calls := rfl

@[simp] theorem after_metrics : (turn.after metrics).metrics = metrics ++ turn.metrics := rfl

@[simp] theorem isBroken_after : (turn.after metrics).isBroken = turn.isBroken := rfl

@[simp] theorem isLimited_after : (turn.after metrics).isLimited = turn.isLimited := rfl

end Turn

/-- Attempts made by a call that comes to these delays and breaks off: one before each
delay up to the first that has nothing to draw from. -/
def attemptsTo (delays : List Duration) : Nat :=
  delays.findIdx (fun delay => !Retry.Jitter.drawable delay) + 1

namespace Call

/-- The report of a protected call that does not break off. -/
def report (c : Config) (s : State) (call : Call ε α) : Report ε α :=
  Pipeline.run c call.pauses.jitter call.operation call.clock s

/-- The turn of a protected call that breaks off. -/
def brokenTurn (c : Config) (s : State) (call : Call ε α) (error : Retry.Jitter.DrawError) :
    Turn ε α :=
  let admission := s.breaker.enter c.circuit call.clock.started
  let made := attemptsTo (call.report c s).delays
  { answer := .broken error
    state := { s with
      breaker := admission.permit.elim admission.breaker fun permit =>
        admission.breaker.abandon permit }
    calls := made
    metrics := admission.metrics ++ timeoutMetrics c call.operation made }

end Call

/-- What becomes of an event. -/
def step (c : Config) (s : State) : Event ε α → Turn ε α
  | .execute identifier call =>
      let report := execute c call.pauses.jitter identifier call.operation call.clock s
      match call.pauses.drawn report.delays report with
      | .ok report => .ofReport report
      | .error error =>
          let admission := grant c identifier call.clock.asked s
          (call.brokenTurn c admission.2.1 error).after admission.2.2
  | .run call =>
      let report := call.report c s
      match call.pauses.drawn report.delays report with
      | .ok report => .ofReport report
      | .error error => call.brokenTurn c s error
  | .grant identifier now =>
      let admission := grant c identifier now s
      ⟨.admitted admission.1, admission.2.1, 0, admission.2.2⟩
  | .remaining identifier now => ⟨.left (remaining c identifier now s), s, 0, []⟩
  | .sweep now =>
      let swept := sweep c now s
      ⟨.swept swept.1, swept.2.1, 0, swept.2.2⟩

/-- Events with their turns, oldest first. -/
def session (c : Config) : State → List (Event ε α) → List (Event ε α × Turn ε α)
  | _, [] => []
  | s, event :: events => (event, step c s event) :: session c (step c s event).state events

end Courier.Pipeline
