/-
# Courier.Store.Database -- a store behind a database connection

Every operation is one query, behind a circuit breaker and under a limit of ten
seconds.  What the server makes of a query is an argument (`Answer`).

The breaker sees the query alone: a fault of the database or a query that runs past
its limit is a failure; everything else is a success, also when the caller gets an
error because no row was found or touched, or because a row does not hold a record.

An `Exchange` is an operation with what becomes of its query and the instants at which the
breaker is asked and told; `step` is what becomes of it, and `session` a list of exchanges one
after the other.
-/
import Courier.Circuit.Breaker
import Courier.Pipeline
import Courier.Store.Query

namespace Courier.Store.Database

set_option autoImplicit false

/-- What a server sends back. -/
structure Reply where
  rows : List Row
  /-- Rows that a statement touched. -/
  affected : Nat

/-- What becomes of a query; `none` when it is never answered. -/
abbrev Answer := Option (Except Fault Reply)

/-- How a database is protected. -/
def protection : Pipeline.Config := .database

/-- What a query comes to under its limit, and whether it ended within it. -/
def limited (answer : Answer) : Except ServiceError Reply × Bool :=
  match answer with
  | none => (.error (.ofTimedOut ⟨protection.timeout⟩), false)
  | some (.error fault) => (.error (.ofFault fault), true)
  | some (.ok reply) => (.ok reply, true)

/-- A query behind the breaker, which is asked at `start` and told at `finish`. -/
def bounded (answer : Answer) (start finish : Instant) (b : Circuit.Breaker) :
    Except ServiceError Reply × Circuit.Breaker × List Metric :=
  let admission := b.enter protection.circuit start
  match admission.permit with
  | none =>
      (.error (.database "database circuit breaker is open"), admission.breaker, admission.metrics)
  | some permit =>
      let (outcome, completed) := limited answer
      let settled := admission.breaker.settle protection.circuit finish permit outcome.isOk
      (outcome, settled.1, admission.metrics ++ [.timed completed] ++ settled.2)

/-- A statement that has to touch a row. -/
def touched (id : String) (reply : Reply) : Outcome :=
  if reply.affected = 0 then .error (.notFound id) else .ok none

/-- What a server's reply is to whoever asked for the operation. -/
def interpret : Operation → Reply → Outcome
  | .create _, _ => .ok none
  | .get id, reply =>
      match reply.rows.head? with
      | none => .error (.notFound id)
      | some row => row.notification.map some
  | .setStatus id _, reply => touched id reply
  | .markSent id _ _, reply => touched id reply
  | .markFailed id _ _, reply => touched id reply
  | .ping, _ => .ok none

/-- Performs an operation. -/
def apply (operation : Operation) (answer : Answer) (start finish : Instant)
    (b : Circuit.Breaker) : Outcome × Circuit.Breaker × List Metric :=
  let (outcome, breaker, metrics) := bounded answer start finish b
  (outcome.bind (interpret operation), breaker, metrics)

/-! ## Operations one after the other -/

/-- An operation, and what becomes of its query. -/
structure Exchange where
  operation : Operation
  answer : Answer
  /-- When the breaker is asked. -/
  start : Instant
  /-- When the breaker is told. -/
  finish : Instant

namespace Exchange

/-- The answer of the breaker to a call that wants to be let through. -/
def admission (x : Exchange) (b : Circuit.Breaker) : Circuit.Breaker.Admission :=
  b.enter protection.circuit x.start

/-- Whether the query ends in a fault of the database or runs past its limit. -/
def faulty (x : Exchange) : Bool := !(limited x.answer).1.isOk

end Exchange

/-- What becomes of an operation. -/
structure Turn where
  /-- What the caller gets. -/
  outcome : Outcome
  breaker : Circuit.Breaker
  metrics : List Metric

/-- What becomes of an operation. -/
def step (b : Circuit.Breaker) (x : Exchange) : Turn :=
  let (outcome, breaker, metrics) := apply x.operation x.answer x.start x.finish b
  ⟨outcome, breaker, metrics⟩

/-- The breaker after a list of operations. -/
def after (b : Circuit.Breaker) (exchanges : List Exchange) : Circuit.Breaker :=
  exchanges.foldl (fun b x => (step b x).breaker) b

/-- An operation, the breaker that it found, and what became of it. -/
structure Entry where
  exchange : Exchange
  before : Circuit.Breaker
  turn : Turn

/-- Operations with what became of them, oldest first. -/
def session : Circuit.Breaker → List Exchange → List Entry
  | _, [] => []
  | b, x :: rest => ⟨x, b, step b x⟩ :: session (step b x).breaker rest

@[simp] theorem after_nil (b : Circuit.Breaker) : after b [] = b := rfl

theorem after_concat (b : Circuit.Breaker) (exchanges : List Exchange) (x : Exchange) :
    after b (exchanges ++ [x]) = (step (after b exchanges) x).breaker := by
  unfold after
  rw [List.foldl_append]
  rfl

end Courier.Store.Database
