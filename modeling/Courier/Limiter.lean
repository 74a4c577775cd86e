/-
# Courier.Limiter -- a sliding-window quota per identifier

Each identifier keeps the instants at which it was admitted.  An admission is
granted while fewer than `maxRequests` of them fall inside the trailing window;
an instant is inside for as long as less than `window` has passed since it.

* `allow` forgets expired instants from the front and records a granted admission;
* `remaining` counts without changing anything;
* `sweep` forgets every expired instant and the identifiers left without one.

A window of zero counts nothing, so everything is granted; a quota of zero denies
everything.

Histories of a limiter are lists of `Event`s, each with the reading of the clock at which it
happens.  `after` is the limiter a history leads to, and `admissions` are the instants at
which one identifier was admitted in its course: everything that was granted, whether the
limiter still remembers it or not.
-/
import Courier.Duration
import Courier.Metric

namespace Courier

set_option autoImplicit false

namespace Limiter

/-- How much is granted per identifier and window. -/
structure Config where
  maxRequests : UInt64
  window : Duration

def Config.standard : Config where
  maxRequests := 5
  window := .ofSeconds 60

/-- Whether an admission at `admitted` still counts at `now`. -/
def Config.inWindow (c : Config) (now admitted : Instant) : Bool :=
  decide (now.since admitted < c.window.nanos)

end Limiter

/-- Admitted instants by identifier, in the order in which identifiers were first
seen. -/
structure Limiter where
  entries : List (String × List Instant)
  deriving DecidableEq

namespace Limiter

def empty : Limiter := ⟨[]⟩

/-- The instants held for an identifier; none when it is not tracked. -/
def admitted (l : Limiter) (id : String) : List Instant :=
  ((l.entries.find? (·.1 == id)).map (·.2)).getD []

/-- Replaces the instants held for an identifier, tracking it from now on. -/
def record (l : Limiter) (id : String) (instants : List Instant) : Limiter :=
  if l.entries.any (·.1 == id) then
    ⟨l.entries.map fun entry => if entry.1 == id then (id, instants) else entry⟩
  else ⟨l.entries ++ [(id, instants)]⟩

/-- Number of identifiers holding state. -/
def tracked (l : Limiter) : Nat := l.entries.length

/-- Asks for one admission of `id` at `now`. -/
def allow (c : Config) (now : Instant) (id : String) (l : Limiter) :
    Bool × Limiter × List Metric :=
  let live := (l.admitted id).dropWhile fun instant => !c.inWindow now instant
  let allowed := decide (live.length < c.maxRequests.toNat)
  (allowed, l.record id (if allowed then live ++ [now] else live), [.decision allowed])

/-- Admissions `id` has left at `now`. -/
def remaining (c : Config) (now : Instant) (id : String) (l : Limiter) : Nat :=
  c.maxRequests.toNat - ((l.admitted id).filter (c.inWindow now)).length

/-- The entries that still hold an instant inside the window. -/
def live (c : Config) (now : Instant) (l : Limiter) : List (String × List Instant) :=
  (l.entries.map fun entry => (entry.1, entry.2.filter (c.inWindow now))).filter
    fun entry => !entry.2.isEmpty

/-- Forgets what has expired; answers how many identifiers went. -/
def sweep (c : Config) (now : Instant) (l : Limiter) : Nat × Limiter × List Metric :=
  let swept : Limiter := ⟨l.live c now⟩
  let removed := l.tracked - swept.tracked
  (removed, swept, if removed = 0 then [] else [.evicted removed])

/-! ## What is asked, one request after the other -/

/-- One thing asked of a limiter. -/
inductive Event where
  | allow (id : String) (now : Instant)
  | remaining (id : String) (now : Instant)
  | sweep (now : Instant)

namespace Event

/-- What the clock reads when it happens. -/
def time : Event → Instant
  | .allow _ now => now
  | .remaining _ now => now
  | .sweep now => now

/-- A clock that never goes back. -/
def Ordered (events : List Event) : Prop := (events.map time).Pairwise (· ≤ ·)

end Event

/-- The limiter an event leaves. -/
def step (c : Config) (l : Limiter) : Event → Limiter
  | .allow id now => (l.allow c now id).2.1
  | .remaining _ _ => l
  | .sweep now => (l.sweep c now).2.1

/-- The limiter after a history that begins with an empty one. -/
def after (c : Config) (events : List Event) : Limiter := events.foldl (step c) empty

/-- Whether an event is an admission of `id`. -/
def admits (c : Config) (id : String) (l : Limiter) : Event → Bool
  | .allow other now => other == id && (l.allow c now other).1
  | _ => false

/-- The instants at which `id` is admitted in a history, oldest first. -/
def admissionsFrom (c : Config) (id : String) : Limiter → List Event → List Instant
  | _, [] => []
  | l, event :: events =>
      (if l.admits c id event then [event.time] else []) ++
        admissionsFrom c id (l.step c event) events

/-- The instants at which `id` was admitted in a history of a new limiter. -/
def admissions (c : Config) (id : String) (events : List Event) : List Instant :=
  admissionsFrom c id empty events

end Limiter

end Courier
