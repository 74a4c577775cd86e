/-
# Courier.Backoff -- capped geometric delays

A retry policy names how many attempts are made and how the pause between them
grows.  `Policy.next` multiplies the current delay in binary64 seconds; a product
that is finite and below the cap becomes the next delay, zero if it is negative;
anything else is the cap.  `Policy.delays` is the whole sequence.
-/
import Courier.Duration

namespace Courier.Retry

set_option autoImplicit false

/-- How often to try and how long to pause in between. -/
structure Policy where
  /-- Attempts including the first one; zero counts as one. -/
  maxAttempts : UInt32
  /-- Where the geometric sequence starts. -/
  initialDelay : Duration
  /-- Cap of a single delay, before jitter. -/
  maxDelay : Duration
  /-- Growth factor applied before every pause. -/
  multiplier : Binary64

namespace Policy

/-- Three attempts, 100 ms doubling up to 5 s. -/
def standard : Policy where
  maxAttempts := 3
  initialDelay := .ofMillis 100
  maxDelay := .ofSeconds 5
  multiplier := .ofNat 2

/-- One attempt and no pause. -/
def single : Policy := { standard with maxAttempts := 1 }

/-- Attempts actually allowed: at least one. -/
def attempts (p : Policy) : Nat := max 1 p.maxAttempts.toNat

/-- The delay after `current` in seconds, before the cap. -/
def grown (p : Policy) (current : Duration) : Binary64 := current.toSeconds.mul p.multiplier

/-- Whether a product stays below the cap. -/
def belowCap (p : Policy) (grown : Binary64) : Bool :=
  grown.isFinite && grown.lt p.maxDelay.toSeconds

/-- The delay after `current`; no answer where a product below the cap is no length of
time. -/
def next? (p : Policy) (current : Duration) : Option Duration :=
  let grown := p.grown current
  if p.belowCap grown then Duration.ofSeconds64? grown.atLeastZero else some p.maxDelay

/-- The delay after `current`, with the cap in the place of an answer that is missing. -/
def next (p : Policy) (current : Duration) : Duration := (p.next? current).getD p.maxDelay

/-- The `n`-th delay, counted from zero. -/
def delay (p : Policy) : Nat → Duration
  | 0 => p.next p.initialDelay
  | n + 1 => p.next (p.delay n)

/-- The first `count` delays that follow `current`. -/
def delaysFrom (p : Policy) (current : Duration) : (count : Nat) → List Duration
  | 0 => []
  | count + 1 => p.next current :: p.delaysFrom (p.next current) count

/-- The first `count` delays of the policy. -/
def delays (p : Policy) (count : Nat) : List Duration := p.delaysFrom p.initialDelay count

end Policy

end Courier.Retry
