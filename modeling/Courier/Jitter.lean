/-
# Courier.Jitter -- adjusting a delay at random

`Jitter.symmetric` moves a delay by up to a quarter of itself, up or down.  What a
random source would answer is an argument (`Draw`): a number below the width of
the range, and a coin.  The width is the quarter's nanoseconds in 64 bits, so it
can be zero while the quarter is not; there is then nothing to draw from, and the
answer is the error `emptyRange`.

`runRandom` and `runRandomIf` are runs whose pauses are adjusted so.  A run that comes
to a delay with nothing to draw from breaks off there and has no report.
-/
import Courier.Retry

namespace Courier.Retry

set_option autoImplicit false

namespace Jitter

/-- Leaves delays as they are. -/
def unchanged : Jitter := fun _ delay => delay

/-- The same delay whatever was asked for. -/
def const (delay : Duration) : Jitter := fun _ _ => delay

/-- The delay times `num / den`, in whole nanoseconds. -/
def scale (num den : Nat) : Jitter := fun _ delay => .ofNanos (delay.nanos * num / den)

/-- What a random source answers: a number, brought below the width of the range
asked for, and a coin. -/
structure Draw where
  number : Nat
  up : Bool

/-- Why no number can be drawn. -/
inductive DrawError where
  | emptyRange
  deriving DecidableEq

def DrawError.message : DrawError → String
  | .emptyRange => "cannot sample empty range"

/-- Width of the range that a shift of `delay` is drawn from. -/
def width (delay : Duration) : Nat := delay.quarter.nanos % UInt64.size

/-- The delay moved by a random amount below a quarter of it. -/
def symmetric (draw : Draw) (delay : Duration) : Except DrawError Duration :=
  if delay.quarter.nanos = 0 then .ok delay
  else if width delay = 0 then .error .emptyRange
  else
    let shift := Duration.ofNanos (draw.number % width delay)
    .ok (if draw.up then delay.add shift else delay.sub shift)

/-- Whether there is something to draw from for a delay, or no need to draw. -/
def drawable (delay : Duration) : Bool :=
  decide (delay.quarter.nanos = 0) || decide (width delay ≠ 0)

/-- The jitter that the answers of a random source make, one for every pause.  A delay
with nothing to draw from stays as it is: `drawn` tells such runs apart. -/
def random (draws : Nat → Draw) : Jitter := fun k delay =>
  match symmetric (draws k) delay with
  | .ok moved => moved
  | .error _ => delay

/-- What there is to see of a run that drew for these delays: an error if one of them
has nothing to draw from. -/
def drawn {β : Type} (delays : List Duration) (shown : β) : Except DrawError β :=
  if delays.all drawable then .ok shown else .error .emptyRange

end Jitter

variable {ε α : Type}

/-- A run with random jitter that retries the errors `shouldRetry` accepts. -/
def runRandomIf (policy : Policy) (draws : Nat → Jitter.Draw) (shouldRetry : ε → Bool)
    (operation : Nat → Attempt ε α) : Except Jitter.DrawError (Report ε α) :=
  let report := runIf policy (Jitter.random draws) shouldRetry operation
  Jitter.drawn report.delays report

/-- A run with random jitter that retries every error. -/
def runRandom (policy : Policy) (draws : Nat → Jitter.Draw) (operation : Nat → Attempt ε α) :
    Except Jitter.DrawError (Report ε α) :=
  runRandomIf policy draws (fun _ => true) operation

end Courier.Retry
