/-
# Courier.Limiter.Task -- sweepers as tasks, turn by turn

`Courier.Limiter.Sweeper` says by arithmetic on timer readings when a sweep falls due.  Here
the same sweepers run as the tasks that they are.

A task makes itself a ticker when it first runs.  The first tick of a ticker has come at
once, and the task passes it over; then it loops: it waits until its ticker ticks or it is
cancelled, sweeps in the first case and ends in the second.  Where both have come, the select
between them takes either (`Draws`).  A tick that is taken late by more than `Ticker.grace`
puts off those after it.

In every millisecond of a wait each task is polled once, in the order in which they were
spawned, and goes on until it has to wait again or has ended.  A wait that ends at some timer
reading is over before the tasks are polled at that reading.
-/
import Courier.Limiter.Sweeper

namespace Courier.Limiter

set_option autoImplicit false

/-- Something that ticks once a period. -/
structure Ticker where
  /-- Timer reading, in nanoseconds, at which the next tick is due. -/
  due : Nat
  period : Duration
  period_pos : 0 < period.nanos

namespace Ticker

/-- Nanoseconds that a tick may be late before those after it are put off. -/
def grace : Nat := 5000000

/-- The ticker of a sweeper that asks for a sweep every `every`, made at timer reading
`time`: its first tick is due then. -/
def start (time : Nat) (every : Duration) : Ticker where
  due := 1000000 * time
  period := Sweeper.interval every
  period_pos := Sweeper.interval_pos every

/-- Whether the next tick has come at timer reading `time`. -/
def ticks (t : Ticker) (time : Nat) : Bool := decide (t.due ≤ 1000000 * time)

/-- The ticker after its tick was taken at timer reading `time`.  The next tick is due a
period after this one was, or a period from now if this one was taken too late. -/
def take (t : Ticker) (time : Nat) : Ticker :=
  { t with
    due := (if grace < 1000000 * time - t.due then 1000000 * time else t.due) + t.period.nanos }

theorem due_lt_take (t : Ticker) (time : Nat) : t.due < (t.take time).due := by
  have positive := t.period_pos
  unfold take
  dsimp only
  split <;> omega

end Ticker

/-- The two ways on from a select. -/
inductive Branch where
  | shutdown
  | tick

namespace Branch

/-- The branch that a select takes, none while neither is ready.  It takes the tick of two
that are ready if `tickFirst`. -/
def select (cancelled ticks tickFirst : Bool) : Option Branch :=
  match cancelled, ticks with
  | false, false => none
  | true, false => some shutdown
  | false, true => some tick
  | true, true => some (if tickFirst then tick else shutdown)

theorem ticks_of_select {cancelled ticks tickFirst : Bool}
    (taken : select cancelled ticks tickFirst = some tick) : ticks = true := by
  cases ticks with
  | true => rfl
  | false => cases cancelled <;> cases taken

end Branch

/-- Where a task stands between two polls. -/
inductive Stage where
  /-- It has not run yet. -/
  | spawned
  /-- It waits in its loop. -/
  | looping (ticker : Ticker)
  | ended

/-- Runs the loop of a task at timer reading `time` until it has to wait or has ended: how
often it sweeps, and where it stands then.  `draws` are the selects' preferences, by pass. -/
def Ticker.loop (time : Nat) (cancelled : Bool) (draws : Nat → Bool) (pass : Nat)
    (ticker : Ticker) : Nat × Stage :=
  match taken : Branch.select cancelled (ticker.ticks time) (draws pass) with
  | none => (0, .looping ticker)
  | some .shutdown => (0, .ended)
  | some .tick =>
      let rest := (ticker.take time).loop time cancelled draws (pass + 1)
      (rest.1 + 1, rest.2)
termination_by 1000000 * time + 1 - ticker.due
decreasing_by
  -- A tick that is taken has come, and the next one is due later.
  have come := of_decide_eq_true (Branch.ticks_of_select taken)
  have later := ticker.due_lt_take time
  omega

/-- The task of a sweeper. -/
structure Task where
  /-- Timer reading at which it was spawned. -/
  spawnedAt : Nat
  every : Duration
  cancelled : Bool
  stage : Stage
  /-- Timer readings at which it has swept, oldest first. -/
  sweeps : List Nat

namespace Task

def spawn (time : Nat) (every : Duration) : Task where
  spawnedAt := time
  every := every
  cancelled := false
  stage := .spawned
  sweeps := []

def cancel (task : Task) : Task := { task with cancelled := true }

/-- A task whose loop ran at timer reading `time`, with how often it swept. -/
def settle (task : Task) (time : Nat) (ran : Nat × Stage) : Nat × Task :=
  (ran.1, { task with stage := ran.2, sweeps := task.sweeps ++ List.replicate ran.1 time })

/-- Polls a task at timer reading `time`: how often it sweeps, and the task afterwards. -/
def poll (time : Nat) (draws : Nat → Bool) (task : Task) : Nat × Task :=
  match task.stage with
  | .ended => (0, task)
  | .spawned =>
      -- The first tick has come already.
      let ticker := (Ticker.start time task.every).take time
      task.settle time (ticker.loop time task.cancelled draws 0)
  | .looping ticker => task.settle time (ticker.loop time task.cancelled draws 0)

end Task

/-- Sweeps a number of times, one sweep after the other. -/
def sweepTimes (c : Config) (now : Instant) : Nat → Limiter → Limiter × List Metric
  | 0, l => (l, [])
  | count + 1, l =>
      let swept := l.sweep c now
      let rest := sweepTimes c now count swept.2.1
      (rest.1, swept.2.2 ++ rest.2)

/-- What selects prefer, by timer reading, task and pass of its loop. -/
abbrev Draws := Nat → Nat → Nat → Bool

/-- A limiter with the tasks of its sweepers, and the timer they run by. -/
structure Polled where
  limiter : Limiter
  /-- Timer reading in milliseconds. -/
  time : Nat
  /-- All that were ever spawned, in that order. -/
  tasks : List Task

namespace Polled

def initial : Polled := ⟨.empty, 0, []⟩

/-- Polls all tasks: how often each of them sweeps, and the tasks afterwards. -/
def polls (draws : Draws) (s : Polled) : List (Nat × Task) :=
  s.tasks.mapIdx fun number task => task.poll s.time (draws s.time number)

/-- How often tasks sweep in all. -/
def sweepsIn (polled : List (Nat × Task)) : Nat :=
  polled.foldr (fun polled sweeps => polled.1 + sweeps) 0

/-- A millisecond passes. -/
def tick (c : Config) (draws : Draws) (now : Instant) (s : Polled) : Polled × List Metric :=
  let polled := s.polls draws
  let swept := sweepTimes c now (sweepsIn polled) s.limiter
  (⟨swept.1, s.time + 1, polled.map (·.2)⟩, swept.2)

/-- Some milliseconds pass. -/
def elapse (c : Config) (draws : Draws) (now : Instant) : Nat → Polled → Polled × List Metric
  | 0, s => (s, [])
  | millis + 1, s =>
      let first := s.tick c draws now
      let rest := elapse c draws now millis first.1
      (rest.1, first.2 ++ rest.2)

/-- Sleeps for `millis` while the limiter's clock stands at `now`. -/
def wait (c : Config) (draws : Draws) (now : Instant) (millis : Nat) (s : Polled) :
    Polled × List Metric :=
  s.elapse c draws now (Duration.asleep millis)

/-- Spawns the task of another sweeper. -/
def spawn (every : Duration) (s : Polled) : Polled :=
  { s with tasks := s.tasks ++ [Task.spawn s.time every] }

/-- Cancels every task. -/
def cancelAll (s : Polled) : Polled := { s with tasks := s.tasks.map Task.cancel }

/-- What an event leaves, and what it makes known. -/
def step (c : Config) (draws : Draws) (s : Polled) : Tended.Event → Polled × List Metric
  | .request event => ({ s with limiter := s.limiter.step c event }, s.limiter.told c event)
  | .sleep now millis => s.wait c draws now millis
  | .start now every => (s.spawn every).wait c draws now 1
  | .stop now => s.cancelAll.wait c draws now 1

/-- A limiter and its tasks after more has happened. -/
def run (c : Config) (draws : Draws) (s : Polled) (events : List Tended.Event) : Polled :=
  events.foldl (fun s event => (s.step c draws event).1) s

/-- A limiter and its tasks after a history that begins with neither. -/
def after (c : Config) (draws : Draws) (events : List Tended.Event) : Polled :=
  initial.run c draws events

end Polled

end Courier.Limiter
