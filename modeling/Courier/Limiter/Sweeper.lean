/-
# Courier.Limiter.Sweeper -- periodic sweeps on a millisecond timer

A sweeper started at `startedAt` milliseconds sweeps its limiter one period
later and then once every period until it is stopped; periods shorter than
`Sweeper.shortest` are raised to it, and it sleeps no longer than any other sleep.
The period is exact, and a sweep happens on the first whole millisecond that is not
before its due time.

A wait that ends on the very millisecond of a sweep is over first, and the sweep
belongs to the next wait.

The limiter's own clock is independent of the timer: the sweeps that fall into a
stretch of timer time all read the same limiter clock, and a second sweep at the
same reading finds nothing left to forget.

Histories of a limiter with sweepers are lists of `Tended.Event`s: requests to the limiter,
sleeps, and the starts and stops of sweepers.  Each event carries what the limiter's own clock
reads at it, and the readings need not be in order; the timer the sweepers run by only moves
when something sleeps, or waits for sweepers to start or to end.
-/
import Courier.Limiter

namespace Courier

set_option autoImplicit false

namespace Limiter

/-- A running sweeper. -/
structure Sweeper where
  /-- Timer reading, in milliseconds, at which it was started. -/
  startedAt : Nat
  period : Duration

namespace Sweeper

/-- The shortest period a sweeper runs at. -/
def shortest : Duration := .ofSeconds 1

/-- The period of a sweeper that is asked for a sweep every `every`. -/
def interval (every : Duration) : Duration :=
  (every.max shortest).min (.ofMillis Duration.farFuture)

theorem nanos_interval (every : Duration) :
    (interval every).nanos = min (max every.nanos 1000000000) (Duration.farFuture * 1000000) := by
  have second : shortest.nanos = 1000000000 := Duration.nanos_ofNanos (by decide)
  have horizon : (Duration.ofMillis Duration.farFuture).nanos = Duration.farFuture * 1000000 :=
    Duration.nanos_ofNanos (by decide)
  rw [interval, Duration.nanos_min, Duration.nanos_max, second, horizon]

theorem interval_pos (every : Duration) : 0 < (interval every).nanos := by
  have years : 0 < Duration.farFuture := by decide
  rw [nanos_interval]
  omega

/-- A sweeper started at `now` that asks for a sweep every `every`. -/
def start (now : Nat) (every : Duration) : Sweeper where
  startedAt := now
  period := interval every

/-- Timer reading of the `k`-th sweep, in whole milliseconds. -/
def tick (s : Sweeper) (k : Nat) : Nat := s.startedAt + (k * s.period.nanos + 999999) / 1000000

/-- How many sweeps fall before timer reading `time`. -/
def ticksBefore (s : Sweeper) (time : Nat) : Nat :=
  (time - 1 - s.startedAt) * 1000000 / s.period.nanos

/-- Whether a sweep falls into the wait from `start` to `finish`. -/
def due (s : Sweeper) (start finish : Nat) : Bool :=
  decide (s.ticksBefore start < s.ticksBefore finish)

end Sweeper

/-- A limiter with the sweepers that run on it, and the timer they run by. -/
structure Tended where
  limiter : Limiter
  /-- Timer reading in milliseconds. -/
  time : Nat
  sweepers : List Sweeper

namespace Tended

def initial : Tended := ⟨.empty, 0, []⟩

/-- Sleeps for `millis` while the limiter's clock stands at `now`. -/
def wait (c : Config) (now : Instant) (millis : Nat) (t : Tended) : Tended × List Metric :=
  let later := t.time + Duration.asleep millis
  if t.sweepers.any (·.due t.time later) then
    let swept := t.limiter.sweep c now
    ({ t with limiter := swept.2.1, time := later }, swept.2.2)
  else ({ t with time := later }, [])

/-- Starts a sweeper and lets it take hold for a millisecond. -/
def startSweeper (c : Config) (now : Instant) (every : Duration) (t : Tended) :
    Tended × List Metric :=
  { t with sweepers := t.sweepers ++ [Sweeper.start t.time every] }.wait c now 1

/-- Stops every sweeper and lets them end for a millisecond. -/
def stopSweepers (c : Config) (now : Instant) (t : Tended) : Tended × List Metric :=
  { t with sweepers := [] }.wait c now 1

end Tended

end Limiter

/-! ## A limiter in use while sweepers run on it -/

namespace Limiter

/-- What a request makes known. -/
def told (c : Config) (l : Limiter) : Event → List Metric
  | .allow id now => (l.allow c now id).2.2
  | .remaining _ _ => []
  | .sweep now => (l.sweep c now).2.2

namespace Tended

/-- One thing that happens to a limiter with sweepers. -/
inductive Event where
  | request (event : Limiter.Event)
  | sleep (now : Instant) (millis : Nat)
  /-- Another sweeper starts. -/
  | start (now : Instant) (every : Duration)
  /-- All sweepers are stopped. -/
  | stop (now : Instant)

namespace Event

def isStart : Event → Bool
  | start .. => true
  | _ => false

def isStop : Event → Bool
  | stop _ => true
  | _ => false

end Event

/-- What an event leaves, and what it makes known. -/
def step (c : Config) (t : Tended) : Event → Tended × List Metric
  | .request event => ({ t with limiter := t.limiter.step c event }, t.limiter.told c event)
  | .sleep now millis => t.wait c now millis
  | .start now every => t.startSweeper c now every
  | .stop now => t.stopSweepers c now

/-- A limiter and its sweepers after a history that begins with neither. -/
def after (c : Config) (events : List Event) : Tended :=
  events.foldl (fun t event => (t.step c event).1) initial

end Tended

end Limiter

end Courier
