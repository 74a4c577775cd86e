/-
# Courier.Circuit.Overlap -- overlapping calls on one breaker

`Breaker` answers single steps; here calls carry numbers and stay pending
between their beginning and their end, so histories with several calls in the
air can be written down as lists of `Event`s (`Overlap.run`).  Each event carries
the clock reading at which it happens.

Beginning a call under a number that is still pending abandons the older call
after the new one has been admitted.
-/
import Courier.Circuit.Breaker

namespace Courier.Circuit

set_option autoImplicit false

/-- A breaker together with the calls that have begun and not ended. -/
structure Overlap where
  breaker : Breaker
  pending : List (Nat × Permit)

/-- One thing that happens to a breaker. -/
inductive Event where
  /-- A call begins; it stays pending if it is admitted. -/
  | start (call : Nat) (now : Instant)
  /-- A pending call ends with a success or a failure. -/
  | finish (call : Nat) (success : Bool) (now : Instant)
  /-- A pending call is abandoned. -/
  | drop (call : Nat)

namespace Overlap

def initial : Overlap := ⟨.initial, []⟩

/-- The permit of a pending call. -/
def permit? (o : Overlap) (call : Nat) : Option Permit :=
  (o.pending.find? (·.1 == call)).map (·.2)

/-- The pending calls without `call`. -/
def without (o : Overlap) (call : Nat) : List (Nat × Permit) :=
  o.pending.filter (·.1 != call)

/-- Begins a call: `false` when it is turned away. -/
def start (c : Config) (call : Nat) (now : Instant) (o : Overlap) : Bool × Overlap × List Metric :=
  let admission := o.breaker.enter c now
  match admission.permit with
  | none => (false, { o with breaker := admission.breaker }, admission.metrics)
  | some permit =>
      let breaker := match o.permit? call with
        | none => admission.breaker
        | some older => admission.breaker.abandon older
      (true, ⟨breaker, (call, permit) :: o.without call⟩, admission.metrics)

/-- Ends a pending call; `none` when no such call is pending. -/
def finish (c : Config) (call : Nat) (success : Bool) (now : Instant) (o : Overlap) :
    Option (Overlap × List Metric) :=
  (o.permit? call).map fun permit =>
    let settled := o.breaker.settle c now permit success
    (⟨settled.1, o.without call⟩, settled.2)

/-- Abandons a pending call; `none` when no such call is pending. -/
def drop (call : Nat) (o : Overlap) : Option Overlap :=
  (o.permit? call).map fun permit => ⟨o.breaker.abandon permit, o.without call⟩

/-- One event; an end of a call that is not pending changes nothing. -/
def step (c : Config) (o : Overlap) : Event → Overlap × List Metric
  | .start call now => (o.start c call now).2
  | .finish call success now => (o.finish c call success now).getD (o, [])
  | .drop call => ((o.drop call).getD o, [])

/-- The state and the metrics after a history of events. -/
def run (c : Config) (o : Overlap) : List Event → Overlap × List Metric
  | [] => (o, [])
  | event :: events =>
      let stepped := o.step c event
      let rest := stepped.1.run c events
      (rest.1, stepped.2 ++ rest.2)

end Overlap

end Courier.Circuit
