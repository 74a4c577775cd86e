/-
# Courier.Proofs.Limiter.Ticks -- when the sweeps of a sweeper fall due

The `k`-th sweep of a sweeper falls on the first millisecond that is not before `k` periods
have passed since its start.  `ticksBefore` counts the sweeps that fall before a timer
reading (`le_ticksBefore_iff`), so a sweep is due in a stretch of time exactly when one falls
on a millisecond of it (`due_iff`), and what is due in two stretches that meet is due in
their union (`due_or`).

Two sweeps are at most the rounded period apart.  A stretch of that length that begins after
the start therefore holds one (`due_of_le`), while nothing is due before the first has come
(`due_eq_false_of_le`).
-/
import Courier.Limiter.Task

namespace Courier.Limiter.Sweeper

set_option autoImplicit false

variable {s : Sweeper} {a b k time : Nat}

/-! ## Periods -/

theorem second_le_interval (every : Duration) : 1000000000 ≤ (interval every).nanos := by
  have years : 1000 ≤ Duration.farFuture := by decide
  rw [nanos_interval]
  omega

/-- A period is what was asked for, a second at least and thirty years at most. -/
theorem ceilMillis_interval (every : Duration) :
    (interval every).ceilMillis = min (every.max shortest).ceilMillis Duration.farFuture := by
  have second : shortest.nanos = 1000000000 := Duration.nanos_ofNanos (by decide)
  unfold Duration.ceilMillis
  rw [nanos_interval, Duration.nanos_max, second]
  omega

/-! ## Ticks -/

theorem tick_one (s : Sweeper) : s.tick 1 = s.startedAt + s.period.ceilMillis := by
  rw [tick, Nat.one_mul, Duration.ceilMillis]

theorem tick_succ_le (s : Sweeper) (k : Nat) : s.tick (k + 1) ≤ s.tick k + s.period.ceilMillis := by
  unfold tick Duration.ceilMillis
  rw [Nat.add_mul, Nat.one_mul]
  omega

/-- Sweeps are a second apart at least. -/
theorem tick_add_le (long : 1000000000 ≤ s.period.nanos) (k : Nat) :
    s.tick k + 1000 ≤ s.tick (k + 1) := by
  unfold tick
  rw [Nat.add_mul, Nat.one_mul]
  omega

/-- The first sweep is the earliest. -/
theorem tick_one_le (positive : 1 ≤ k) : s.tick 1 ≤ s.tick k := by
  have more : 1 * s.period.nanos ≤ k * s.period.nanos := Nat.mul_le_mul_right _ positive
  unfold tick
  omega

theorem le_ticksBefore_iff (long : 1000000000 ≤ s.period.nanos) (positive : 1 ≤ k) :
    k ≤ s.ticksBefore time ↔ s.tick k < time := by
  have more : 1 * s.period.nanos ≤ k * s.period.nanos := Nat.mul_le_mul_right _ positive
  have some : 0 < s.period.nanos := by omega
  rw [ticksBefore, tick, Nat.le_div_iff_mul_le some]
  omega

theorem ticksBefore_mono (le : a ≤ b) : s.ticksBefore a ≤ s.ticksBefore b := by
  have less : (a - 1 - s.startedAt) * 1000000 ≤ (b - 1 - s.startedAt) * 1000000 := by omega
  exact Nat.div_le_div_right less

theorem ticksBefore_eq_zero (early : time ≤ s.startedAt + 1) : s.ticksBefore time = 0 := by
  have nothing : time - 1 - s.startedAt = 0 := by omega
  rw [ticksBefore, nothing, Nat.zero_mul, Nat.zero_div]

/-- The sweeps that are not counted before `time` fall on it or later. -/
theorem le_tick_succ (long : 1000000000 ≤ s.period.nanos) (time : Nat) :
    time ≤ s.tick (s.ticksBefore time + 1) := by
  rw [← Nat.not_lt, ← le_ticksBefore_iff long (Nat.le_add_left 1 _)]
  omega

/-- A sweep that falls on a millisecond is one more after it. -/
theorem ticksBefore_succ (long : 1000000000 ≤ s.period.nanos) :
    s.ticksBefore (time + 1) =
      if s.tick (s.ticksBefore time + 1) ≤ time then s.ticksBefore time + 1
      else s.ticksBefore time := by
  have next := le_tick_succ long time
  have apart := tick_add_le long (s.ticksBefore time + 1)
  have kept : s.ticksBefore time ≤ s.ticksBefore (time + 1) := ticksBefore_mono (Nat.le_succ _)
  have one : s.ticksBefore time + 1 ≤ s.ticksBefore (time + 1) ↔
      s.tick (s.ticksBefore time + 1) < time + 1 :=
    le_ticksBefore_iff long (Nat.le_add_left 1 _)
  have two : s.ticksBefore time + 1 + 1 ≤ s.ticksBefore (time + 1) ↔
      s.tick (s.ticksBefore time + 1 + 1) < time + 1 :=
    le_ticksBefore_iff long (Nat.le_add_left 1 _)
  split <;> omega

/-! ## What is due -/

/-- A sweep is due in a stretch of time when one falls on a millisecond of it. -/
theorem due_iff (long : 1000000000 ≤ s.period.nanos) :
    s.due a b = true ↔ ∃ k, 1 ≤ k ∧ a ≤ s.tick k ∧ s.tick k < b := by
  rw [due, decide_eq_true_iff]
  constructor
  · intro more
    refine ⟨s.ticksBefore a + 1, Nat.le_add_left 1 _, le_tick_succ long a, ?_⟩
    rw [← le_ticksBefore_iff long (Nat.le_add_left 1 _)]
    omega
  · rintro ⟨k, positive, after, before⟩
    rw [← Nat.not_lt, ← le_ticksBefore_iff long positive] at after
    rw [← le_ticksBefore_iff long positive] at before
    omega

theorem due_or (first : a ≤ b) {c : Nat} (second : b ≤ c) :
    (s.due a b || s.due b c) = s.due a c := by
  have left := ticksBefore_mono (s := s) first
  have right := ticksBefore_mono (s := s) second
  rw [Bool.eq_iff_iff, Bool.or_eq_true, due, due, due]
  simp only [decide_eq_true_iff]
  omega

/-- A sweep is due in a millisecond when the next one falls on it. -/
theorem due_succ (long : 1000000000 ≤ s.period.nanos) :
    s.due time (time + 1) = decide (s.tick (s.ticksBefore time + 1) ≤ time) := by
  rw [due, ticksBefore_succ long]
  split <;> simp [*]

/-- Nothing is due before the first sweep has come. -/
theorem due_eq_false_of_le (long : 1000000000 ≤ s.period.nanos) (early : b ≤ s.tick 1) :
    s.due a b = false := by
  rw [← Bool.not_eq_true, due_iff long]
  rintro ⟨k, positive, -, before⟩
  have first := tick_one_le (s := s) positive
  omega

/-- A stretch as long as the rounded period that begins after the start holds a sweep. -/
theorem due_of_le (long : 1000000000 ≤ s.period.nanos) (started : s.startedAt < a)
    (room : a + s.period.ceilMillis ≤ b) : s.due a b = true := by
  rw [due_iff long]
  refine ⟨s.ticksBefore a + 1, Nat.le_add_left 1 _, le_tick_succ long a, ?_⟩
  have step := tick_succ_le s (s.ticksBefore a)
  -- The sweep before it, or the start, is over.
  rcases Nat.eq_zero_or_pos (s.ticksBefore a) with none | some
  · rw [none, Nat.zero_add, tick_one]
    omega
  · have before := (le_ticksBefore_iff long some).mp (Nat.le_refl _)
    omega

/-! ## The schedule -/

/-- The first sweeps. -/
def schedule (s : Sweeper) (count : Nat) : List Nat :=
  (List.range count).map fun k => s.tick (k + 1)

theorem schedule_succ (s : Sweeper) (count : Nat) :
    s.schedule (count + 1) = s.schedule count ++ [s.tick (count + 1)] := by
  simp only [schedule, List.range_succ, List.map_append, List.map_cons, List.map_nil]

/-- What falls on a millisecond is next on the schedule. -/
theorem schedule_ticksBefore_succ (long : 1000000000 ≤ s.period.nanos) (time : Nat) :
    s.schedule (s.ticksBefore (time + 1)) =
      s.schedule (s.ticksBefore time) ++
        List.replicate (if s.due time (time + 1) then 1 else 0) time := by
  have latest := le_tick_succ long time
  rw [ticksBefore_succ long, due_succ long]
  by_cases come : s.tick (s.ticksBefore time + 1) ≤ time
  · have exact := Nat.le_antisymm come latest
    simp only [come, if_true, decide_true, List.replicate_one]
    rw [schedule_succ, exact]
  · simp only [come, if_false, decide_false, Bool.false_eq_true, List.replicate_zero,
      List.append_nil]

theorem mem_schedule {count : Nat} :
    time ∈ s.schedule count ↔ ∃ k, 1 ≤ k ∧ k ≤ count ∧ s.tick k = time := by
  simp only [schedule, List.mem_map, List.mem_range]
  constructor
  · rintro ⟨k, below, rfl⟩
    exact ⟨k + 1, Nat.le_add_left 1 k, below, rfl⟩
  · rintro ⟨k, positive, most, rfl⟩
    exact ⟨k - 1, by omega, by rw [Nat.sub_add_cancel positive]⟩

end Courier.Limiter.Sweeper
