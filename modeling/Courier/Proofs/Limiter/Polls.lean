/-
# Courier.Proofs.Limiter.Polls -- what a sweeper's task does when it is polled

Polled in every millisecond, a task is never late for a tick: the ticker of a task that has
swept `count` times always shows the due time of the next sweep of its schedule
(`Ticker.Shows`), and no poll finds two ticks.

So a task that is not cancelled sweeps in a poll exactly when a sweep of its schedule is due
in that millisecond, and waits again (`Task.Waiting.poll`).  A cancelled task has ended after
the poll; it may sweep once more before, if a sweep is due right then and the select prefers
the tick (`Task.Waiting.poll_cancel`).

A millisecond polls all tasks.  Where none is cancelled they stay the sweepers that they are,
and some task sweeps exactly if a sweep is due of one of these (`Task.allPunctual_polls`).
-/
import Courier.Proofs.Limiter.Ticks

namespace Courier.Limiter

set_option autoImplicit false

variable {time : Nat} {draws : Nat → Bool}

/-! ## The ticker -/

namespace Ticker

variable {ticker : Ticker} {s : Sweeper} {cancelled : Bool} {pass : Nat}

/-- The ticker is that of a sweeper after `count` sweeps. -/
structure Shows (ticker : Ticker) (s : Sweeper) (count : Nat) : Prop where
  period : ticker.period = s.period
  due : ticker.due = 1000000 * s.startedAt + (count + 1) * s.period.nanos

theorem Shows.ticks_iff {count : Nat} (shows : ticker.Shows s count) :
    ticker.ticks time = true ↔ s.tick (count + 1) ≤ time := by
  rw [ticks, decide_eq_true_iff, shows.due, Sweeper.tick]
  omega

/-- A tick that is taken in time does not put off the next one. -/
theorem due_take (timely : 1000000 * time ≤ ticker.due + grace) :
    (ticker.take time).due = ticker.due + ticker.period.nanos := by
  have early : ¬ grace < 1000000 * time - ticker.due := by omega
  rw [take, if_neg early]

theorem Shows.ticks_eq_false {count : Nat} (shows : ticker.Shows s count)
    (early : ¬ s.tick (count + 1) ≤ time) : ticker.ticks time = false := by
  rw [← Bool.not_eq_true, shows.ticks_iff]
  exact early

/-- The first tick comes at once; once it is taken, the first sweep is next. -/
theorem shows_start (time : Nat) (every : Duration) :
    ((start time every).take time).Shows (.start time every) 0 where
  period := rfl
  due := by
    rw [due_take (Nat.le_add_right _ _), Nat.zero_add, Nat.one_mul]
    rfl

/-- Once its tick is taken in the millisecond in which it comes, the sweep after it is
next. -/
theorem Shows.take {count : Nat} (shows : ticker.Shows s count)
    (latest : time ≤ s.tick (count + 1)) : (ticker.take time).Shows s (count + 1) where
  period := shows.period
  due := by
    have timely : 1000000 * time ≤ ticker.due + grace := by
      rw [Sweeper.tick] at latest
      rw [shows.due]
      unfold grace
      omega
    rw [due_take timely, shows.due, shows.period, Nat.add_assoc, ← Nat.succ_mul]

/-- Two ticks do not come in one millisecond. -/
theorem Shows.ticks_take {count : Nat} (shows : ticker.Shows s count)
    (long : 1000000000 ≤ s.period.nanos) (latest : time ≤ s.tick (count + 1)) :
    (ticker.take time).ticks time = false := by
  have apart := Sweeper.tick_add_le long (count + 1)
  exact (shows.take latest).ticks_eq_false (by omega)

/-- The loop goes on with the branch that its select takes. -/
theorem loop_eq (ticker : Ticker) (time : Nat) (cancelled : Bool) (draws : Nat → Bool)
    (pass : Nat) :
    ticker.loop time cancelled draws pass =
      match Branch.select cancelled (ticker.ticks time) (draws pass) with
      | none => (0, .looping ticker)
      | some .shutdown => (0, .ended)
      | some .tick =>
          let rest := (ticker.take time).loop time cancelled draws (pass + 1)
          (rest.1 + 1, rest.2) := by
  rw [loop]
  split <;> simp only [*]

/-- While no tick has come, a task waits, or ends if it is cancelled. -/
theorem loop_of_not_ticks (early : ticker.ticks time = false) :
    ticker.loop time cancelled draws pass =
      (0, if cancelled then .ended else .looping ticker) := by
  rw [loop_eq, early]
  cases cancelled <;> rfl

/-- A tick that has come is taken, unless the task is cancelled and the select prefers that. -/
theorem loop_of_ticks (come : ticker.ticks time = true) :
    ticker.loop time cancelled draws pass =
      if cancelled && !draws pass then (0, .ended)
      else
        let rest := (ticker.take time).loop time cancelled draws (pass + 1)
        (rest.1 + 1, rest.2) := by
  rw [loop_eq, come]
  cases cancelled with
  | false => rfl
  | true =>
      cases tickFirst : draws pass with
      | false => rfl
      | true => rfl

/-- The loop of a task that is not cancelled takes a tick if one has come, and waits for the
next. -/
theorem Shows.loop (shows : ticker.Shows s (s.ticksBefore time))
    (long : 1000000000 ≤ s.period.nanos) (draws : Nat → Bool) (pass : Nat) :
    ∃ next, ticker.loop time false draws pass =
        ((if s.due time (time + 1) then 1 else 0), .looping next) ∧
      next.Shows s (s.ticksBefore (time + 1)) := by
  have latest := Sweeper.le_tick_succ long time
  rw [Sweeper.due_succ long, Sweeper.ticksBefore_succ long]
  by_cases come : s.tick (s.ticksBefore time + 1) ≤ time
  · refine ⟨ticker.take time, ?_, ?_⟩
    · rw [loop_of_ticks (shows.ticks_iff.mpr come), loop_of_not_ticks (shows.ticks_take long latest)]
      simp [come]
    · rw [if_pos come]
      exact shows.take latest
  · refine ⟨ticker, ?_, ?_⟩
    · rw [loop_of_not_ticks (shows.ticks_eq_false come)]
      simp [come]
    · rw [if_neg come]
      exact shows

/-- The loop of a cancelled task ends, and takes a tick before only if one has come. -/
theorem Shows.loop_cancelled (shows : ticker.Shows s (s.ticksBefore time))
    (long : 1000000000 ≤ s.period.nanos) (draws : Nat → Bool) (pass : Nat) :
    ∃ last, ticker.loop time true draws pass = ((if last then 1 else 0), .ended) ∧
      (last = true → s.due time (time + 1) = true) := by
  have latest := Sweeper.le_tick_succ long time
  by_cases come : s.tick (s.ticksBefore time + 1) ≤ time
  · refine ⟨draws pass, ?_, ?_⟩
    · rw [loop_of_ticks (shows.ticks_iff.mpr come), loop_of_not_ticks (shows.ticks_take long latest)]
      cases draws pass <;> rfl
    · intro _
      rw [Sweeper.due_succ long]
      exact decide_eq_true come
  · refine ⟨false, ?_, fun last => absurd last Bool.false_ne_true⟩
    rw [loop_of_not_ticks (shows.ticks_eq_false come)]
    rfl

end Ticker

namespace Polled

theorem sweepsIn_cons (polled : Nat × Task) (rest : List (Nat × Task)) :
    sweepsIn (polled :: rest) = polled.1 + sweepsIn rest := rfl

theorem sweepsIn_pos_iff {polled : List (Nat × Task)} :
    0 < sweepsIn polled ↔ ∃ swept ∈ polled, 0 < swept.1 := by
  induction polled with
  | nil => exact ⟨fun none => absurd none (Nat.lt_irrefl 0), fun ⟨_, member, _⟩ => by cases member⟩
  | cons first rest ih =>
      simp only [sweepsIn_cons, List.mem_cons, exists_eq_or_imp, ← ih]
      omega

end Polled

/-! ## A poll of a sweeper's task -/

namespace Task

/-- The sweeper that a task is. -/
def sweeper (task : Task) : Sweeper := .start task.spawnedAt task.every

/-- The sweeper that a task is until it has ended. -/
def sweeper? (task : Task) : Option Sweeper :=
  match task.stage with
  | .ended => none
  | _ => some task.sweeper

theorem second_le_period (task : Task) : 1000000000 ≤ task.sweeper.period.nanos :=
  Sweeper.second_le_interval task.every

/-- The task waits for the next sweep of its schedule, with those before `time` done. -/
structure Waiting (time : Nat) (task : Task) : Prop where
  started : task.spawnedAt < time
  uncancelled : task.cancelled = false
  looping : ∃ ticker, task.stage = .looping ticker ∧
    ticker.Shows task.sweeper (task.sweeper.ticksBefore time)
  sweeps : task.sweeps = task.sweeper.schedule (task.sweeper.ticksBefore time)

/-- The task is over, and was on schedule as long as it ran. -/
structure Ended (task : Task) : Prop where
  stage : task.stage = .ended
  cancelled : task.cancelled = true
  sweeps : ∃ count, task.sweeps = task.sweeper.schedule count

theorem Waiting.sweeper?_eq {task : Task} (waiting : task.Waiting time) :
    task.sweeper? = some task.sweeper := by
  obtain ⟨ticker, looping, -⟩ := waiting.looping
  rw [sweeper?, looping]

theorem Ended.sweeper?_eq {task : Task} (ended : task.Ended) : task.sweeper? = none := by
  rw [sweeper?, ended.stage]

variable {task : Task}

/-- A task whose loop has a tick to wait for sweeps exactly if a sweep of its schedule is due
in the millisecond, and waits again. -/
theorem settle_loop {ticker : Ticker} (started : task.spawnedAt ≤ time)
    (uncancelled : task.cancelled = false)
    (shows : ticker.Shows task.sweeper (task.sweeper.ticksBefore time))
    (sweeps : task.sweeps = task.sweeper.schedule (task.sweeper.ticksBefore time))
    (draws : Nat → Bool) :
    (task.settle time (ticker.loop time task.cancelled draws 0)).2.Waiting (time + 1) ∧
      (task.settle time (ticker.loop time task.cancelled draws 0)).1 =
        if task.sweeper.due time (time + 1) then 1 else 0 := by
  obtain ⟨next, loop, later⟩ := shows.loop task.second_le_period draws 0
  rw [uncancelled, loop]
  refine ⟨?_, rfl⟩
  exact {
    started := Nat.lt_succ_of_le started
    uncancelled := uncancelled
    looping := ⟨next, rfl, later⟩
    sweeps := by
      change task.sweeps ++ _ = task.sweeper.schedule (task.sweeper.ticksBefore (time + 1))
      rw [Sweeper.schedule_ticksBefore_succ task.second_le_period, sweeps] }

/-- A poll changes neither when a task was spawned nor what it was asked for. -/
theorem sweeper_poll (task : Task) (time : Nat) (draws : Nat → Bool) :
    (task.poll time draws).2.sweeper = task.sweeper := by
  unfold poll
  split <;> rfl

theorem Waiting.poll (waiting : task.Waiting time) (draws : Nat → Bool) :
    (task.poll time draws).2.Waiting (time + 1) ∧
      (task.poll time draws).1 = if task.sweeper.due time (time + 1) then 1 else 0 := by
  obtain ⟨ticker, looping, shows⟩ := waiting.looping
  rw [Task.poll, looping]
  exact settle_loop (Nat.le_of_lt waiting.started) waiting.uncancelled shows waiting.sweeps draws

/-- A task that runs for the first time passes the first tick over. -/
theorem poll_spawn (time : Nat) (every : Duration) (draws : Nat → Bool) :
    ((spawn time every).poll time draws).2.Waiting (time + 1) ∧
      ((spawn time every).poll time draws).1 =
        if (spawn time every).sweeper.due time (time + 1) then 1 else 0 := by
  have before : (spawn time every).sweeper.ticksBefore time = 0 :=
    Sweeper.ticksBefore_eq_zero (Nat.le_succ _)
  have uncancelled : (spawn time every).cancelled = false := rfl
  refine settle_loop (Nat.le_refl time) uncancelled ?_ ?_ draws
  · rw [before]
    exact Ticker.shows_start time every
  · rw [before]
    rfl

/-- A cancelled task has ended after a poll, and has swept in it only if a sweep of its
schedule was due. -/
theorem Waiting.poll_cancel (waiting : task.Waiting time) (draws : Nat → Bool) :
    (task.cancel.poll time draws).2.Ended ∧
      (0 < (task.cancel.poll time draws).1 → task.sweeper.due time (time + 1) = true) := by
  obtain ⟨ticker, looping, shows⟩ := waiting.looping
  obtain ⟨last, loop, only⟩ := shows.loop_cancelled task.second_le_period draws 0
  have polled : task.cancel.poll time draws =
      task.cancel.settle time ((if last then 1 else 0), .ended) := by
    rw [Task.poll, cancel, looping, ← loop]
  rw [polled]
  refine ⟨⟨rfl, rfl, ?_⟩, ?_⟩
  · cases last with
    | false => exact ⟨_, (List.append_nil _).trans waiting.sweeps⟩
    | true =>
        have next := Sweeper.schedule_ticksBefore_succ task.second_le_period time
        rw [only rfl] at next
        exact ⟨_, (congrArg (· ++ [time]) waiting.sweeps).trans next.symm⟩
  · cases last with
    | false => exact fun none => absurd none (Nat.lt_irrefl 0)
    | true => exact fun _ => only rfl

theorem Ended.poll (ended : task.Ended) (draws : Nat → Bool) : task.poll time draws = (0, task) := by
  rw [Task.poll, ended.stage]

theorem Ended.cancel (ended : task.Ended) : task.cancel = task := by
  rw [Task.cancel, ← ended.cancelled]

/-! ## All tasks in one millisecond -/

/-- The task waits, or is over. -/
inductive Settled (time : Nat) (task : Task) : Prop where
  | waiting (waiting : task.Waiting time)
  | ended (ended : task.Ended)

/-- The task is settled, or was spawned just now. -/
inductive Ready (time : Nat) : Task → Prop where
  | settled {task : Task} (settled : task.Settled time) : Ready time task
  | spawned (every : Duration) : Ready time (spawn time every)

theorem Settled.ended_of_none (settled : task.Settled time) (gone : task.sweeper? = none) :
    task.Ended := by
  cases settled with
  | waiting waiting =>
      rw [waiting.sweeper?_eq] at gone
      cases gone
  | ended ended => exact ended

theorem Settled.waiting_of_uncancelled (settled : task.Settled time)
    (uncancelled : task.cancelled = false) : task.Waiting time := by
  cases settled with
  | waiting waiting => exact waiting
  | ended ended =>
      rw [ended.cancelled] at uncancelled
      cases uncancelled

/-- The first sweep of a task comes when its interval has passed, or thirty years have. -/
theorem tick_one (task : Task) :
    task.sweeper.tick 1 =
      task.spawnedAt + min (task.every.max Sweeper.shortest).ceilMillis Duration.farFuture := by
  have period : task.sweeper.period = Sweeper.interval task.every := rfl
  have started : task.sweeper.startedAt = task.spawnedAt := rfl
  rw [Sweeper.tick_one, period, started, Sweeper.ceilMillis_interval]

theorem Settled.tick_one_le {swept : Nat} (settled : task.Settled time)
    (member : swept ∈ task.sweeps) : task.sweeper.tick 1 ≤ swept := by
  have schedule : ∃ count, task.sweeps = task.sweeper.schedule count := by
    cases settled with
    | waiting waiting => exact ⟨_, waiting.sweeps⟩
    | ended ended => exact ended.sweeps
  obtain ⟨count, sweeps⟩ := schedule
  rw [sweeps, Sweeper.mem_schedule] at member
  obtain ⟨k, positive, -, rfl⟩ := member
  exact Sweeper.tick_one_le positive

/-- What a poll makes of a task that is not cancelled. -/
structure Punctual (time : Nat) (task : Task) (polled : Nat × Task) : Prop where
  settled : polled.2.Settled (time + 1)
  /-- It stays the sweeper that it is. -/
  sweeper : polled.2.sweeper? = task.sweeper?
  /-- It sweeps if that is due of the sweeper. -/
  sweeps : decide (0 < polled.1) = task.sweeper?.any fun s => s.due time (time + 1)

theorem Punctual.of_waiting {polled : Nat × Task} (runs : task.sweeper? = some task.sweeper)
    (same : polled.2.sweeper = task.sweeper) (waiting : polled.2.Waiting (time + 1))
    (count : polled.1 = if task.sweeper.due time (time + 1) then 1 else 0) :
    task.Punctual time polled where
  settled := .waiting waiting
  sweeper := by rw [waiting.sweeper?_eq, same, runs]
  sweeps := by
    rw [count, runs, Option.any_some]
    cases task.sweeper.due time (time + 1) <;> rfl

theorem Ready.poll (ready : task.Ready time) (draws : Nat → Bool) :
    task.Punctual time (task.poll time draws) := by
  cases ready with
  | spawned every =>
      obtain ⟨waiting, count⟩ := poll_spawn time every draws
      exact .of_waiting rfl (sweeper_poll _ _ _) waiting count
  | settled settled =>
      cases settled with
      | waiting waiting =>
          obtain ⟨next, count⟩ := waiting.poll draws
          exact .of_waiting waiting.sweeper?_eq (sweeper_poll _ _ _) next count
      | ended ended =>
          rw [ended.poll draws]
          exact ⟨.ended ended, rfl, by rw [ended.sweeper?_eq]; rfl⟩

/-- A settled task that is cancelled ends in a poll; it sweeps in it only if that is due. -/
theorem Settled.poll_cancel (settled : task.Settled time) (draws : Nat → Bool) :
    (task.cancel.poll time draws).2.Ended ∧
      (0 < (task.cancel.poll time draws).1 →
        (task.sweeper?.any fun s => s.due time (time + 1)) = true) := by
  cases settled with
  | waiting waiting =>
      rw [waiting.sweeper?_eq, Option.any_some]
      exact waiting.poll_cancel draws
  | ended ended =>
      rw [ended.cancel, ended.poll draws]
      exact ⟨ended, fun none => absurd none (Nat.lt_irrefl 0)⟩

/-- What the polls of one millisecond make of the tasks, none of them cancelled. -/
structure AllPunctual (time : Nat) (tasks : List Task) (polled : List (Nat × Task)) : Prop where
  settled : ∀ task ∈ polled.map (·.2), task.Settled (time + 1)
  sweepers : (polled.map (·.2)).filterMap sweeper? = tasks.filterMap sweeper?
  sweeps : decide (0 < Polled.sweepsIn polled) =
    (tasks.filterMap sweeper?).any fun s => s.due time (time + 1)

theorem AllPunctual.cons {tasks : List Task} {polled : Nat × Task} {rest : List (Nat × Task)}
    (first : task.Punctual time polled) (others : AllPunctual time tasks rest) :
    AllPunctual time (task :: tasks) (polled :: rest) where
  settled := by
    rw [List.map_cons, List.forall_mem_cons]
    exact ⟨first.settled, others.settled⟩
  sweepers := by
    simp only [List.map_cons, List.filterMap_cons, first.sweeper, others.sweepers]
  sweeps := by
    have either : decide (0 < polled.1 + Polled.sweepsIn rest) =
        (decide (0 < polled.1) || decide (0 < Polled.sweepsIn rest)) := by
      rw [← Bool.decide_or]
      exact decide_eq_decide.mpr (by omega)
    rw [Polled.sweepsIn_cons, either, first.sweeps, others.sweeps, List.filterMap_cons]
    cases task.sweeper? with
    | none => rfl
    | some s => rw [Option.any_some, List.any_cons]

theorem allPunctual_polls {tasks : List Task} (ready : ∀ task ∈ tasks, task.Ready time)
    (draws : Nat → Nat → Bool) :
    AllPunctual time tasks (tasks.mapIdx fun number task => task.poll time (draws number)) := by
  induction tasks generalizing draws with
  | nil => exact ⟨fun _ none => (List.not_mem_nil none).elim, rfl, rfl⟩
  | cons task tasks ih =>
      rw [List.forall_mem_cons] at ready
      rw [List.mapIdx_cons]
      exact .cons (ready.1.poll (draws 0)) (ih ready.2 fun number => draws (number + 1))

end Task

end Courier.Limiter
