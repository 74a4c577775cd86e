/-
# Courier.Timeout -- a limit on how long one attempt may take

`Work` says how long an operation needs, or that it never ends.  `Timeout.limit`
races it against a timer: work that needs no more milliseconds than the timer
keeps its outcome, also when both end in the same millisecond; anything longer is
cut off when the timer fires.
-/
import Courier.Duration
import Courier.Retry

namespace Courier

set_option autoImplicit false

/-- An operation that ends with a value: the milliseconds it needs, `none` when it
never ends, and the value. -/
structure Work (α : Type) where
  needs : Option Nat
  value : α

/-- Work that sleeps for some milliseconds before it ends with a value. -/
def Work.sleeping {α : Type} (millis : Nat) (value : α) : Work α :=
  ⟨some (Duration.asleep millis), value⟩

/-- Work that never ends. -/
def Work.hanging {α : Type} (value : α) : Work α := ⟨none, value⟩

/-- A limit was reached before an operation ended. -/
structure TimedOut where
  limit : Duration
  deriving DecidableEq

def TimedOut.message (t : TimedOut) : String := "Operation timed out after " ++ t.limit.render

namespace Timeout

/-- The default limit. -/
def standard : Duration := .ofSeconds 30

/-- Work under a limit: its value, or the limit that cut it off. -/
structure Race (α : Type) where
  takes : Nat
  outcome : Except TimedOut α
  metrics : List Metric

/-- Whether work is over before a timer for `limit` cuts it off. -/
def finishes {α : Type} (limit : Duration) (work : Work α) : Bool :=
  work.needs.any fun millis => decide (millis ≤ limit.timerMillis)

/-- Races work against a timer. -/
def race {α : Type} (limit : Duration) (work : Work α) : Race α :=
  match work.needs with
  | none => ⟨limit.timerMillis, .error ⟨limit⟩, [.timed false]⟩
  | some millis =>
      if millis ≤ limit.timerMillis then ⟨millis, .ok work.value, [.timed true]⟩
      else ⟨limit.timerMillis, .error ⟨limit⟩, [.timed false]⟩

/-- Work that can fail, its timeout made one of its own errors. -/
def attempt {ε α : Type} (timedOut : TimedOut → ε) (limit : Duration) (work : Work (Except ε α)) :
    Retry.Attempt ε α where
  takes := (race limit work).takes
  outcome := match (race limit work).outcome with
    | .ok outcome => outcome
    | .error cut => .error (timedOut cut)

end Timeout

end Courier
