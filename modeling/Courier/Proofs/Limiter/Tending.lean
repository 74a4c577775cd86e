/-
# Courier.Proofs.Limiter.Tending -- a limiter while sweepers run on it

The tasks of a limiter's sweepers, polled millisecond by millisecond, do what `Tended`
computes from timer readings.  `Polled.tended` forgets the tasks and keeps the sweepers that
have not ended; it commutes with the passing of time (`Polled.elapse_tended`) and with every
event but the stop of the sweepers (`Polled.step_tended`).  In the millisecond after that each
task ends, though a sweep that is due at that very moment may still be made: the one thing a
task can do that its schedule leaves open (`Polled.step_stop`).

What is to be known of the sweepers then follows from when sweeps fall due: `Tending` says it
of one moment, and every moment of every history is like that (`tending_after`).
-/
import Courier.Proofs.Limiter.Sweep
import Courier.Proofs.Limiter.Polls

namespace Courier.Limiter

set_option autoImplicit false

/-! ## Sweeping, or not -/

/-- What a stretch of time makes of a limiter, if a sweep is due in it or not. -/
def sweepIf (c : Config) (now : Instant) (due : Bool) (l : Limiter) : Limiter × List Metric :=
  if due then (l.sweep c now).2 else (l, [])

/-- More than one sweep at an instant does what one does. -/
theorem sweepTimes_eq (c : Config) (now : Instant) (count : Nat) (l : Limiter) :
    sweepTimes c now count l = sweepIf c now (decide (0 < count)) l := by
  induction count generalizing l with
  | zero => rfl
  | succ count ih =>
      have once : sweepIf c now (decide (0 < count + 1)) l = (l.sweep c now).2 := by
        simp [sweepIf]
      have again : sweepTimes c now count (l.sweep c now).2.1 = ((l.sweep c now).2.1, []) := by
        rw [ih, sweepIf, sweep_sweep, ite_self]
      rw [once, sweepTimes]
      simp only [again, List.append_nil]

/-- Two stretches of time, one after the other. -/
theorem sweepIf_sweepIf (c : Config) (now : Instant) (first second : Bool) (l : Limiter) :
    (let before := sweepIf c now first l
     let rest := sweepIf c now second before.1
     (rest.1, before.2 ++ rest.2)) = sweepIf c now (first || second) l := by
  cases first with
  | false => rfl
  | true =>
      have again : sweepIf c now second (l.sweep c now).2.1 = ((l.sweep c now).2.1, []) := by
        rw [sweepIf, sweep_sweep, ite_self]
      simp only [sweepIf, if_true, Bool.true_or] at again ⊢
      rw [again, List.append_nil]

theorem distinct_sweepIf {l : Limiter} (distinct : l.Distinct) (c : Config) (now : Instant)
    (due : Bool) : (sweepIf c now due l).1.Distinct := by
  cases due with
  | false => exact distinct
  | true => exact distinct_sweep distinct c now

/-! ## Sweepers by arithmetic -/

namespace Tended

variable {t : Tended}

/-- Whether a sweep is due within so many milliseconds. -/
def anyDue (t : Tended) (millis : Nat) : Bool :=
  t.sweepers.any fun s => s.due t.time (t.time + millis)

/-- So many milliseconds pass. -/
def elapse (c : Config) (now : Instant) (millis : Nat) (t : Tended) : Tended × List Metric :=
  let swept := sweepIf c now (t.anyDue millis) t.limiter
  ({ t with limiter := swept.1, time := t.time + millis }, swept.2)

theorem wait_eq (c : Config) (now : Instant) (millis : Nat) (t : Tended) :
    t.wait c now millis = t.elapse c now (Duration.asleep millis) := by
  unfold wait elapse sweepIf anyDue
  dsimp only
  split <;> rfl

theorem anyDue_zero (t : Tended) : t.anyDue 0 = false := by
  simp [anyDue, Sweeper.due]

/-- What is due in the first millisecond or in those after it. -/
theorem anyDue_succ (c : Config) (now : Instant) (millis : Nat) (t : Tended) :
    (t.anyDue 1 || (t.elapse c now 1).1.anyDue millis) = t.anyDue (millis + 1) := by
  have joined : ∀ s : Sweeper,
      (s.due t.time (t.time + 1) || s.due (t.time + 1) (t.time + 1 + millis)) =
        s.due t.time (t.time + (millis + 1)) := by
    intro s
    rw [Sweeper.due_or (Nat.le_add_right _ _) (Nat.le_add_right _ _)]
    congr 1
    omega
  simp only [anyDue, elapse]
  induction t.sweepers with
  | nil => rfl
  | cons s sweepers ih =>
      simp only [List.any_cons]
      rw [← joined s, ← ih]
      ac_rfl

theorem elapse_zero (c : Config) (now : Instant) (t : Tended) : t.elapse c now 0 = (t, []) := by
  rw [elapse, anyDue_zero]
  rfl

theorem elapse_succ (c : Config) (now : Instant) (millis : Nat) (t : Tended) :
    t.elapse c now (millis + 1) =
      let first := t.elapse c now 1
      let rest := first.1.elapse c now millis
      (rest.1, first.2 ++ rest.2) := by
  have both := sweepIf_sweepIf c now (t.anyDue 1) ((t.elapse c now 1).1.anyDue millis)
    t.limiter
  rw [anyDue_succ] at both
  rw [elapse, ← both]
  simp only [elapse]
  congr 2
  omega

end Tended

/-! ## Sweepers as tasks -/

namespace Polled

variable {s : Polled}

/-- The limiter with the sweepers that have not ended. -/
def tended (s : Polled) : Tended := ⟨s.limiter, s.time, s.tasks.filterMap Task.sweeper?⟩

/-- Every task waits, or is over. -/
def Settled (s : Polled) : Prop := ∀ task ∈ s.tasks, task.Settled s.time

/-- A millisecond passes for the tasks as it does for their sweepers. -/
theorem tick_tended (c : Config) (draws : Draws) (now : Instant)
    (ready : ∀ task ∈ s.tasks, task.Ready s.time) :
    ((s.tick c draws now).1.tended, (s.tick c draws now).2) = s.tended.elapse c now 1 ∧
      (s.tick c draws now).1.Settled := by
  have polls := Task.allPunctual_polls ready (draws s.time)
  refine ⟨?_, polls.settled⟩
  have due : decide (0 < sweepsIn (s.polls draws)) = s.tended.anyDue 1 := polls.sweeps
  have kept : ((s.polls draws).map (·.2)).filterMap Task.sweeper? = s.tended.sweepers :=
    polls.sweepers
  simp only [tick, sweepTimes_eq, due, Tended.elapse]
  rw [tended, kept]
  rfl

/-- **Time passes for the tasks as it does for their sweepers.** -/
theorem elapse_tended (c : Config) (draws : Draws) (now : Instant) (settled : s.Settled)
    (millis : Nat) :
    ((s.elapse c draws now millis).1.tended, (s.elapse c draws now millis).2) =
        s.tended.elapse c now millis ∧
      (s.elapse c draws now millis).1.Settled := by
  induction millis generalizing s with
  | zero =>
      rw [Tended.elapse_zero]
      exact ⟨rfl, settled⟩
  | succ millis ih =>
      obtain ⟨first, next⟩ := tick_tended c draws now fun task member => .settled (settled task member)
      obtain ⟨rest, last⟩ := ih next
      refine ⟨?_, last⟩
      rw [Tended.elapse_succ, ← first]
      dsimp only
      rw [← rest]
      rfl

theorem asleep_one : Duration.asleep 1 = 1 := by decide

theorem wait_one (c : Config) (draws : Draws) (now : Instant) (s : Polled) :
    s.wait c draws now 1 = s.tick c draws now := by
  rw [wait, asleep_one, elapse, elapse, List.append_nil]

/-! ## Events -/

theorem ready_spawn (settled : s.Settled) (every : Duration) :
    ∀ task ∈ (s.spawn every).tasks, task.Ready s.time := by
  intro task member
  rcases List.mem_append.mp member with old | new
  · exact .settled (settled task old)
  · rw [List.mem_singleton.mp new]
    exact .spawned every

theorem sweepers_spawn (s : Polled) (every : Duration) :
    (s.spawn every).tended.sweepers =
      s.tended.sweepers ++ [Sweeper.start s.tended.time every] :=
  List.filterMap_append

/-- **What an event makes of the tasks is what it makes of their sweepers,** the stop of the
sweepers apart. -/
theorem step_tended (c : Config) (draws : Draws) (settled : s.Settled) {event : Tended.Event}
    (goesOn : event.isStop = false) :
    ((s.step c draws event).1.tended, (s.step c draws event).2) = s.tended.step c event ∧
      (s.step c draws event).1.Settled := by
  cases event with
  | request event => exact ⟨rfl, settled⟩
  | sleep now millis =>
      rw [Tended.step, Tended.wait_eq]
      exact elapse_tended c draws now settled (Duration.asleep millis)
  | start now every =>
      have ticked := tick_tended c draws now (ready_spawn settled every)
      rw [← wait_one] at ticked
      refine ⟨ticked.1.trans ?_, ticked.2⟩
      rw [Tended.step, Tended.startSweeper, Tended.wait_eq, asleep_one, ← sweepers_spawn]
      rfl
  | stop now => cases goesOn

/-- A poll of a task that was cancelled. -/
theorem ended_of_polls (draws : Draws) (settled : s.Settled) {polled : Nat × Task}
    (member : polled ∈ s.cancelAll.polls draws) :
    polled.2.Ended ∧ (0 < polled.1 → s.tended.anyDue 1 = true) := by
  obtain ⟨number, below, rfl⟩ := List.mem_mapIdx.mp member
  have within : number < s.tasks.length := (List.length_map Task.cancel).symm ▸ below
  have held : s.tasks[number] ∈ s.tasks := List.getElem_mem within
  have cancelled : s.cancelAll.tasks[number] = s.tasks[number].cancel := List.getElem_map _
  rw [cancelled]
  obtain ⟨ended, only⟩ := (settled _ held).poll_cancel (draws s.time number)
  refine ⟨ended, fun swept => ?_⟩
  obtain ⟨w, runs, due⟩ := (Option.any_eq_true _ _).mp (only swept)
  exact List.any_eq_true.mpr ⟨w, List.mem_filterMap.mpr ⟨_, held, runs⟩, due⟩

/-- **The stop of the sweepers ends every task.**  Only a sweep that is due right then may
still be made. -/
theorem step_stop (c : Config) (draws : Draws) (settled : s.Settled) (now : Instant) :
    (∀ task ∈ (s.step c draws (.stop now)).1.tasks, task.Ended) ∧
      ∃ last, (last = true → s.tended.anyDue 1 = true) ∧
        ((s.step c draws (.stop now)).1.tended, (s.step c draws (.stop now)).2) =
          (let swept := sweepIf c now last s.limiter
           (⟨swept.1, s.time + 1, []⟩, swept.2)) := by
  have ticked : s.step c draws (.stop now) = s.cancelAll.tick c draws now :=
    wait_one c draws now s.cancelAll
  have ended : ∀ task ∈ (s.cancelAll.tick c draws now).1.tasks, task.Ended := by
    intro task member
    obtain ⟨polled, polls, rfl⟩ := List.mem_map.mp member
    exact (ended_of_polls draws settled polls).1
  have nobody : (s.cancelAll.tick c draws now).1.tasks.filterMap Task.sweeper? = [] :=
    List.filterMap_eq_nil_iff.mpr fun task member => (ended task member).sweeper?_eq
  rw [ticked]
  refine ⟨ended, decide (0 < sweepsIn (s.cancelAll.polls draws)), fun swept => ?_, ?_⟩
  · obtain ⟨polled, polls, positive⟩ := sweepsIn_pos_iff.mp (of_decide_eq_true swept)
    exact (ended_of_polls draws settled polls).2 positive
  · rw [tended, nobody, tick, sweepTimes_eq]
    rfl

/-! ## Histories -/

/-- Every task waits or is over, and no identifier is tracked twice. -/
structure Sound (s : Polled) : Prop where
  settled : s.Settled
  distinct : s.limiter.Distinct

theorem Sound.step (sound : s.Sound) (c : Config) (draws : Draws) (event : Tended.Event) :
    (s.step c draws event).1.Sound := by
  by_cases stops : event.isStop = true
  · cases event with
    | stop now =>
        obtain ⟨ended, last, -, swept⟩ := step_stop c draws sound.settled now
        have limiter : (s.step c draws (.stop now)).1.limiter = (sweepIf c now last s.limiter).1 :=
          congrArg (fun turn => turn.1.limiter) swept
        refine ⟨fun task member => .ended (ended task member), ?_⟩
        rw [limiter]
        exact distinct_sweepIf sound.distinct c now last
    | request | sleep | start => cases stops
  · rw [Bool.not_eq_true] at stops
    obtain ⟨same, settled⟩ := step_tended c draws sound.settled stops
    have limiter : (s.step c draws event).1.limiter = (s.tended.step c event).1.limiter :=
      congrArg (fun turn => turn.1.limiter) same
    refine ⟨settled, ?_⟩
    rw [limiter]
    cases event with
    | request event => exact distinct_step sound.distinct c event
    | sleep now millis =>
        rw [Tended.step, Tended.wait_eq]
        exact distinct_sweepIf sound.distinct c now _
    | start now every =>
        rw [Tended.step, Tended.startSweeper, Tended.wait_eq]
        exact distinct_sweepIf sound.distinct c now _
    | stop now => cases stops

theorem Sound.run (sound : s.Sound) (c : Config) (draws : Draws) (events : List Tended.Event) :
    (s.run c draws events).Sound := by
  induction events generalizing s with
  | nil => exact sound
  | cons event events ih => exact ih (sound.step c draws event)

theorem sound_after (c : Config) (draws : Draws) (events : List Tended.Event) :
    (after c draws events).Sound := by
  refine Sound.run ⟨fun task none => (List.not_mem_nil none).elim, ?_⟩ c draws events
  exact List.nodup_nil

/-! ## Sleeps -/

/-- What is due is due of a task that is not cancelled. -/
theorem anyDue_iff (settled : s.Settled) {millis : Nat} :
    s.tended.anyDue millis = true ↔ ∃ task ∈ s.tasks, task.cancelled = false ∧
      task.sweeper.due s.time (s.time + millis) = true := by
  rw [Tended.anyDue, List.any_eq_true]
  constructor
  · rintro ⟨w, held, due⟩
    obtain ⟨task, member, runs⟩ := List.mem_filterMap.mp held
    cases settled task member with
    | waiting waiting =>
        rw [waiting.sweeper?_eq, Option.some_inj] at runs
        subst runs
        exact ⟨task, member, waiting.uncancelled, due⟩
    | ended ended =>
        rw [ended.sweeper?_eq] at runs
        cases runs
  · rintro ⟨task, member, uncancelled, due⟩
    have waiting := (settled task member).waiting_of_uncancelled uncancelled
    exact ⟨task.sweeper, List.mem_filterMap.mpr ⟨task, member, waiting.sweeper?_eq⟩, due⟩

theorem sleep_tended (c : Config) (draws : Draws) (settled : s.Settled) (now : Instant)
    (millis : Nat) :
    ((s.step c draws (.sleep now millis)).1.tended, (s.step c draws (.sleep now millis)).2) =
        s.tended.elapse c now (Duration.asleep millis) ∧
      (s.step c draws (.sleep now millis)).1.Settled :=
  elapse_tended c draws now settled (Duration.asleep millis)

/-- A sleep sweeps if that is due in its course. -/
theorem limiter_sleep (c : Config) (draws : Draws) (settled : s.Settled) (now : Instant)
    (millis : Nat) :
    (s.step c draws (.sleep now millis)).1.limiter =
      (sweepIf c now (s.tended.anyDue (Duration.asleep millis)) s.limiter).1 :=
  congrArg (fun turn => turn.1.limiter) (sleep_tended c draws settled now millis).1

theorem metrics_sleep (c : Config) (draws : Draws) (settled : s.Settled) (now : Instant)
    (millis : Nat) :
    (s.step c draws (.sleep now millis)).2 =
      (sweepIf c now (s.tended.anyDue (Duration.asleep millis)) s.limiter).2 :=
  congrArg Prod.snd (sleep_tended c draws settled now millis).1

/-- The sweepers that run before a sleep run after it. -/
theorem sweepers_sleep (c : Config) (draws : Draws) (settled : s.Settled) (now : Instant)
    (millis : Nat) :
    (s.step c draws (.sleep now millis)).1.tended.sweepers = s.tended.sweepers :=
  congrArg (fun turn => turn.1.sweepers) (sleep_tended c draws settled now millis).1

theorem time_sleep (c : Config) (draws : Draws) (settled : s.Settled) (now : Instant)
    (millis : Nat) :
    (s.step c draws (.sleep now millis)).1.time = s.time + Duration.asleep millis :=
  congrArg (fun turn => turn.1.time) (sleep_tended c draws settled now millis).1

/-- A sleep that is over before any first sweep changes nothing. -/
theorem sleep_of_early (c : Config) (draws : Draws) (settled : s.Settled) (now : Instant)
    {millis : Nat} (early : ∀ task ∈ s.tasks, task.cancelled = false →
      s.time + Duration.asleep millis ≤ task.sweeper.tick 1) :
    (s.step c draws (.sleep now millis)).1.limiter = s.limiter ∧
      (s.step c draws (.sleep now millis)).2 = [] := by
  have nothing : s.tended.anyDue (Duration.asleep millis) = false := by
    rw [← Bool.not_eq_true, anyDue_iff settled]
    rintro ⟨task, member, uncancelled, due⟩
    have before := early task member uncancelled
    rw [Sweeper.due_eq_false_of_le task.second_le_period before] at due
    cases due
  rw [limiter_sleep c draws settled, metrics_sleep c draws settled, nothing]
  exact ⟨rfl, rfl⟩

/-- In a sleep longer than its interval a task that is not cancelled has a sweep due. -/
theorem due_of_long (settled : s.Settled) {task : Task} (member : task ∈ s.tasks)
    (uncancelled : task.cancelled = false) {millis : Nat}
    (long : (task.every.max Sweeper.shortest).ceilMillis < millis) :
    task.sweeper.due s.time (s.time + Duration.asleep millis) = true := by
  have waiting := (settled task member).waiting_of_uncancelled uncancelled
  refine Sweeper.due_of_le task.second_le_period waiting.started ?_
  have period : task.sweeper.period.ceilMillis =
      min (task.every.max Sweeper.shortest).ceilMillis Duration.farFuture :=
    Sweeper.ceilMillis_interval task.every
  rw [period, Duration.asleep]
  omega

/-- A task that has a sweep due in a sleep makes it. -/
theorem exists_swept (c : Config) (draws : Draws) (settled : s.Settled) (now : Instant)
    {millis : Nat} {task : Task} (member : task ∈ s.tasks) (uncancelled : task.cancelled = false)
    (due : task.sweeper.due s.time (s.time + Duration.asleep millis) = true) :
    ∃ later ∈ (s.step c draws (.sleep now millis)).1.tasks,
      later.sweeper = task.sweeper ∧ ∃ time ∈ later.sweeps, s.time ≤ time := by
  have waiting := (settled task member).waiting_of_uncancelled uncancelled
  have runs : task.sweeper ∈ s.tended.sweepers :=
    List.mem_filterMap.mpr ⟨task, member, waiting.sweeper?_eq⟩
  rw [← sweepers_sleep c draws settled now millis] at runs
  obtain ⟨later, held, same⟩ := List.mem_filterMap.mp runs
  refine ⟨later, held, ?_⟩
  have next := (sleep_tended c draws settled now millis).2 later held
  cases next with
  | ended ended =>
      rw [ended.sweeper?_eq] at same
      cases same
  | waiting next =>
      rw [next.sweeper?_eq, Option.some_inj] at same
      rw [Sweeper.due_iff task.second_le_period] at due
      obtain ⟨k, positive, after, before⟩ := due
      refine ⟨same, task.sweeper.tick k, ?_, after⟩
      rw [next.sweeps, same, Sweeper.mem_schedule]
      refine ⟨k, positive, ?_, rfl⟩
      rw [Sweeper.le_ticksBefore_iff task.second_le_period positive]
      exact (time_sleep c draws settled now millis).symm ▸ before

/-! ## After the stop -/

/-- Where every task has ended, only the start of another sweeper changes that. -/
theorem ended_step (c : Config) (draws : Draws) (ended : ∀ task ∈ s.tasks, task.Ended)
    {event : Tended.Event} (noStart : event.isStart = false) :
    ∀ task ∈ (s.step c draws event).1.tasks, task.Ended := by
  have settled : s.Settled := fun task member => .ended (ended task member)
  cases event with
  | request event => exact ended
  | stop now => exact (step_stop c draws settled now).1
  | start now every => cases noStart
  | sleep now millis =>
      have nobody : s.tended.sweepers = [] :=
        List.filterMap_eq_nil_iff.mpr fun task member => (ended task member).sweeper?_eq
      rw [← sweepers_sleep c draws settled now millis] at nobody
      intro task member
      have next := (sleep_tended c draws settled now millis).2 task member
      exact next.ended_of_none (List.filterMap_eq_nil_iff.mp nobody task member)

theorem ended_run (c : Config) (draws : Draws) (ended : ∀ task ∈ s.tasks, task.Ended)
    {events : List Tended.Event} (noStart : ∀ event ∈ events, event.isStart = false) :
    ∀ task ∈ (s.run c draws events).tasks, task.Ended := by
  induction events generalizing s with
  | nil => exact ended
  | cons event events ih =>
      rw [List.forall_mem_cons] at noStart
      exact ih (ended_step c draws ended noStart.1) noStart.2

/-! ## What sweepers do -/

/-- What the sweepers of a limiter have done and will do, seen at one moment. -/
structure Tending (c : Config) (draws : Draws) (s : Polled) : Prop where
  /-- No task has swept before its interval, or thirty years of it, had passed. -/
  patient : ∀ task ∈ s.tasks, ∀ time ∈ task.sweeps,
    task.spawnedAt + min (task.every.max Sweeper.shortest).ceilMillis Duration.farFuture ≤ time
  /-- A sleep that ends before that leaves the limiter as it is. -/
  quiet : ∀ now millis,
    (∀ task ∈ s.tasks, task.cancelled = false →
      s.time + Duration.asleep millis ≤
        task.spawnedAt + min (task.every.max Sweeper.shortest).ceilMillis Duration.farFuture) →
    (s.step c draws (.sleep now millis)).1.limiter = s.limiter ∧
      (s.step c draws (.sleep now millis)).2 = []
  /-- In a sleep longer than its interval a task that is not cancelled sweeps, and what is
  tracked afterwards has an instant inside the window. -/
  swept : ∀ task ∈ s.tasks, task.cancelled = false →
    ∀ now millis, (task.every.max Sweeper.shortest).ceilMillis < millis →
    (∃ later ∈ (s.step c draws (.sleep now millis)).1.tasks,
      later.sweeper = task.sweeper ∧ ∃ time ∈ later.sweeps, s.time ≤ time) ∧
    (s.step c draws (.sleep now millis)).1.limiter = (s.limiter.sweep c now).2.1 ∧
    (s.step c draws (.sleep now millis)).1.limiter.tracked =
      s.limiter.identifiers.countP (s.limiter.isFresh c now)
  /-- Once the sweepers are stopped every task has ended, and until another is started no
  sleep changes anything. -/
  stopped : ∀ now later, (∀ event ∈ later, event.isStart = false) →
    (∀ task ∈ ((s.step c draws (.stop now)).1.run c draws later).tasks, task.stage = .ended) ∧
    ∀ now' millis,
      (((s.step c draws (.stop now)).1.run c draws later).step c draws
        (.sleep now' millis)).1.limiter =
          ((s.step c draws (.stop now)).1.run c draws later).limiter ∧
      (((s.step c draws (.stop now)).1.run c draws later).step c draws (.sleep now' millis)).2 = []
  /-- Every other event does to the tasks what it does to their sweepers. -/
  computed : ∀ event, event.isStop = false →
    ((s.step c draws event).1.tended, (s.step c draws event).2) = s.tended.step c event
  /-- So does the stop, up to a last sweep if one is due at that moment. -/
  halted : ∀ now, ∃ last, (last = true → s.tended.anyDue 1 = true) ∧
    ((s.step c draws (.stop now)).1.tended, (s.step c draws (.stop now)).2) =
      ({ (s.tended.step c (.stop now)).1 with limiter := (sweepIf c now last s.limiter).1 },
        (sweepIf c now last s.limiter).2)

theorem Sound.tending (sound : s.Sound) (c : Config) (draws : Draws) : Tending c draws s where
  patient := by
    intro task member time swept
    rw [← task.tick_one]
    exact (sound.settled task member).tick_one_le swept
  quiet := by
    intro now millis early
    refine sleep_of_early c draws sound.settled now fun task member uncancelled => ?_
    rw [task.tick_one]
    exact early task member uncancelled
  swept := by
    intro task member uncancelled now millis long
    have due := due_of_long sound.settled member uncancelled long
    have some : s.tended.anyDue (Duration.asleep millis) = true :=
      (anyDue_iff sound.settled).mpr ⟨task, member, uncancelled, due⟩
    have slept := limiter_sleep c draws sound.settled now millis
    rw [some] at slept
    refine ⟨exists_swept c draws sound.settled now member uncancelled due, slept, ?_⟩
    rw [slept]
    exact tracked_sweep sound.distinct c now
  stopped := by
    intro now later noStart
    have ended := ended_run c draws (step_stop c draws sound.settled now).1 noStart
    refine ⟨fun task member => (ended task member).stage, fun now' millis => ?_⟩
    refine sleep_of_early c draws (fun task member => .ended (ended task member)) now'
      fun task member uncancelled => ?_
    rw [(ended task member).cancelled] at uncancelled
    cases uncancelled
  computed := fun event goesOn => (step_tended c draws sound.settled goesOn).1
  halted := fun now => (step_stop c draws sound.settled now).2

/-- **What sweepers do for a limiter.**  At every moment of every history of a limiter and its
sweepers, whatever the limiter's clock reads in its course and whatever the tasks' selects
prefer: a task that is not cancelled sweeps in every sleep that is longer than its interval,
and what is tracked afterwards are the identifiers with an instant inside the window; none has
swept before its interval, or thirty years of it, had passed; after the stop every task has
ended, and no sleep changes the limiter until another is started.  And the tasks do what
`Tended` computes. -/
theorem tending_after (c : Config) (draws : Draws) (events : List Tended.Event) :
    Tending c draws (after c draws events) :=
  (sound_after c draws events).tending c draws

end Polled

/-- A sweeper that is asked for a sweep every five seconds, in a sleep of six. -/
example :
    (Tended.after ⟨5, .ofSeconds 1⟩
      [.request (.allow "guest" 0), .start 2000000000 (.ofSeconds 5),
        .sleep 2000000000 6000]).limiter.tracked = 0 := by
  decide

/-! ## Intervals beyond thirty years -/

/-- An admission whose window has passed, and a sweeper that is asked for a sweep every
sixty-three years. -/
def rareSweeps : List Tended.Event :=
  [.request (.allow "guest" 0), .start 5000000000 (.ofSeconds 2000000000),
    .sleep 5000000000 900000000000, .sleep 5000000000 46080000010]

/-- The limiter is swept thirty years after the sweeper was started, and not sixty-three. -/
theorem after_rareSweeps :
    (Tended.after ⟨1, .ofSeconds 1⟩ (rareSweeps.take 3)).limiter.tracked = 1 ∧
      (Tended.after ⟨1, .ofSeconds 1⟩ rareSweeps).limiter.tracked = 0 ∧
      (Tended.after ⟨1, .ofSeconds 1⟩ rareSweeps).time < 2000000000 * 1000 := by
  decide

end Courier.Limiter
