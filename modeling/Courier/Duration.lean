/-
# Courier.Duration -- lengths of time, to the nanosecond

A `Duration` is a whole number of nanoseconds below `2 ^ 64` seconds; the bound
travels with the value.  Sums and differences saturate at the two ends
(`Duration.add`, `Duration.sub`), so no operation here can leave the range.

Timers tick in whole milliseconds.  A limit of `d` is reached `d.timerMillis`
milliseconds after it was set, which is `d` rounded up unless `d` is beyond what a
timer can be set for (`Duration.timerHorizon`).  A sleep of `d` takes
`d.sleepMillis`, thirty years at most.  An `Instant` is a number of nanoseconds
since a clock's own origin, and `Instant.since` is zero when the clock has moved
back.

A duration can be told as a binary64 number of seconds (`toSeconds`, `ofSeconds64?`) and as a
text in the largest unit that fits (`render`).
-/
import Courier.Binary64

namespace Courier

set_option autoImplicit false

/-- A length of time in nanoseconds, below `2 ^ 64` seconds. -/
structure Duration where
  nanos : Nat
  nanos_lt : nanos < UInt64.size * 1000000000 := by decide
  deriving DecidableEq

/-- A reading of a monotonic clock, in nanoseconds since that clock's origin. -/
abbrev Instant := Nat

/-- Nanoseconds from `earlier` to `later`, zero when `later` comes first. -/
def Instant.since (later earlier : Instant) : Nat := later - earlier

namespace Duration

/-- One more than the longest duration's nanoseconds. -/
def limit : Nat := UInt64.size * 1000000000

def zero : Duration where
  nanos := 0

def longest : Duration where
  nanos := limit - 1
  nanos_lt := by decide

/-- The duration of `n` nanoseconds, or the longest one when `n` is too large. -/
def ofNanos (n : Nat) : Duration :=
  if h : n < UInt64.size * 1000000000 then ⟨n, h⟩ else longest

theorem nanos_ofNanos {n : Nat} (h : n < limit) : (ofNanos n).nanos = n := by
  unfold ofNanos
  rw [dif_pos (show n < UInt64.size * 1000000000 from h)]

def ofMillis (n : Nat) : Duration := ofNanos (n * 1000000)

def ofSeconds (n : Nat) : Duration := ofNanos (n * 1000000000)

/-- Seconds and nanoseconds put together, the nanoseconds carrying over; `none`
when the sum leaves the range. -/
def ofParts? (seconds nanos : Nat) : Option Duration :=
  if h : seconds * 1000000000 + nanos < UInt64.size * 1000000000 then some ⟨_, h⟩ else none

/-- Whole seconds. -/
def seconds (d : Duration) : Nat := d.nanos / 1000000000

/-- Nanoseconds beyond the whole seconds. -/
def subsecond (d : Duration) : Nat := d.nanos % 1000000000

/-- The sum, or the longest duration when the sum leaves the range. -/
def add (a b : Duration) : Duration := ofNanos (a.nanos + b.nanos)

/-- The difference, or zero when `b` is longer. -/
def sub (a b : Duration) : Duration where
  nanos := a.nanos - b.nanos
  nanos_lt := Nat.lt_of_le_of_lt (Nat.sub_le ..) a.nanos_lt

/-- A fourth of the duration, in whole nanoseconds. -/
def quarter (d : Duration) : Duration where
  nanos := d.nanos / 4
  nanos_lt := Nat.lt_of_le_of_lt (Nat.div_le_self ..) d.nanos_lt

/-- The duration in milliseconds, rounded up. -/
def ceilMillis (d : Duration) : Nat := (d.nanos + 999999) / 1000000

/-- Seconds beyond which a timer cannot be set. -/
def timerHorizon : Nat := 0x8000000000000000

/-- Milliseconds after which a timer set beyond its horizon fires: thirty years. -/
def farFuture : Nat := 30 * 365 * 24 * 60 * 60 * 1000

/-- Milliseconds until a timer set for `d` fires. -/
def timerMillis (d : Duration) : Nat :=
  if d.seconds < timerHorizon then d.ceilMillis else farFuture

/-- Milliseconds that a sleep for `millis` takes. -/
def asleep (millis : Nat) : Nat := min millis farFuture

/-- Milliseconds that a sleep for `d` takes. -/
def sleepMillis (d : Duration) : Nat := asleep d.ceilMillis

/-- The longer of two durations. -/
def max (a b : Duration) : Duration := if a.nanos ≤ b.nanos then b else a

/-- The shorter of two durations. -/
def min (a b : Duration) : Duration := if a.nanos ≤ b.nanos then a else b

theorem nanos_max (a b : Duration) : (a.max b).nanos = Max.max a.nanos b.nanos := by
  unfold Duration.max
  split <;> omega

theorem nanos_min (a b : Duration) : (a.min b).nanos = Min.min a.nanos b.nanos := by
  unfold Duration.min
  split <;> omega

/-! ## Seconds as binary64 numbers -/

/-- Seconds as a binary64 number: the whole seconds and the nanoseconds over `10 ^ 9`, each step
rounded. -/
def toSeconds (d : Duration) : Binary64 :=
  (Binary64.ofNat d.seconds).add ((Binary64.ofNat d.subsecond).div (Binary64.ofNat 1000000000))

/-- The nearest whole number of nanoseconds, ties to even; none for a number that is no length of
time, one that is negative, not finite, or `2 ^ 64` and more. -/
def ofSeconds64? : Binary64 → Option Duration
  | .finite negative units =>
      if negative && units != 0 then none
      else ofParts? 0 (roundHalfEven (units * 1000000000) Binary64.perOne)
  | _ => none

/-! ## Texts -/

/-- The digits of `n < 10 ^ width` as a decimal fraction, without the zeros that
would end it. -/
def fractionDigits : (width : Nat) → (n : Nat) → List Char
  | 0, _ => []
  | _, 0 => []
  | width + 1, n =>
      let place := Nat.pow 10 width
      Nat.digitChar (n / place) :: fractionDigits width (n % place)

/-- `whole` and `part / 10 ^ width` as a decimal. -/
def decimal (whole width part : Nat) : String :=
  match fractionDigits width part with
  | [] => toString whole
  | ds => toString whole ++ "." ++ String.ofList ds

/-- The duration in seconds, milliseconds, microseconds or nanoseconds, whichever is the largest
unit it reaches: `0ns`, `1.001µs`, `10.5ms`, `30s`. -/
def render (d : Duration) : String :=
  if 1000000000 ≤ d.nanos then decimal (d.nanos / 1000000000) 9 (d.nanos % 1000000000) ++ "s"
  else if 1000000 ≤ d.nanos then decimal (d.nanos / 1000000) 6 (d.nanos % 1000000) ++ "ms"
  else if 1000 ≤ d.nanos then decimal (d.nanos / 1000) 3 (d.nanos % 1000) ++ "µs"
  else toString d.nanos ++ "ns"

end Duration

end Courier
