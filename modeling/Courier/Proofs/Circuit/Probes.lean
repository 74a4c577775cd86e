/-
# Courier.Proofs.Circuit.Probes -- how many probes a half-open circuit lets through

A half-open circuit counts its probes in `inFlight`, and the counter starts over
whenever a half-open period begins.  A probe of an earlier period that is still
pending then is pending without being counted, and its end is taken for the end of
one of the new probes.

`Tally` is the invariant: within a half-open period the pending probes are the
counted ones and at most as many others as were pending when the period began
(`Period.tally`).  So

* in a period that begins with `k` probes still pending, at most `probeLimit + k`
  are pending at once (`Period.pendingProbes_le`), and this many can be
  (`Period.exists_full`);
* a period keeps within `probeLimit` however it goes on exactly when it begins with
  none (`halfOpen_probe_bound`).

`carriedProbe` is a history in which one probe is carried into the next period.
-/
import Courier.Proofs.Circuit.Step
import Mathlib.Data.Set.Finite.Basic

namespace Courier.Circuit.Overlap

set_option autoImplicit false

/-- Calls let through as probes that have not ended. -/
def pendingProbes (o : Overlap) : Nat := o.pending.countP (·.2.probe)

variable {c : Config} {o : Overlap}

/-! ## Counting pending calls -/

theorem without_of_free {call : Nat} (free : o.permit? call = none) :
    o.without call = o.pending := by
  have absent : ∀ entry ∈ o.pending, ¬ (entry.1 == call) = true := by
    simpa [permit?, List.find?_eq_none] using free
  exact List.filter_eq_self.mpr fun entry member => by simpa using absent entry member

theorem countP_without {pending : List (Nat × Permit)} {call : Nat} {permit : Permit}
    (distinct : (pending.map (·.1)).Nodup)
    (held : pending.find? (·.1 == call) = some (call, permit)) (p : Nat × Permit → Bool) :
    pending.countP p = (pending.filter (·.1 != call)).countP p + (p (call, permit)).toNat := by
  induction pending with
  | nil => simp at held
  | cons entry rest ih =>
      rw [List.map_cons, List.nodup_cons] at distinct
      by_cases same : entry.1 = call
      · -- The call stands here, and distinct numbers keep it out of the rest.
        have here : entry = (call, permit) := by
          rw [List.find?_cons_of_pos (by simpa using same)] at held
          exact Option.some.inj held
        have others : rest.filter (·.1 != call) = rest := by
          refine List.filter_eq_self.mpr fun other member => ?_
          have apart : other.1 ≠ entry.1 := fun equal =>
            distinct.1 (equal ▸ List.mem_map_of_mem member)
          simpa [same] using apart
        rw [List.filter_cons_of_neg (by simpa using same), others, List.countP_cons, here]
        cases p (call, permit) <;> rfl
      · rw [List.find?_cons_of_neg (by simpa using same)] at held
        rw [List.filter_cons_of_pos (by simpa using same), List.countP_cons, List.countP_cons,
          ih distinct.2 held]
        omega

theorem countP_of_held (distinct : o.Distinct) {call : Nat} {permit : Permit}
    (held : o.permit? call = some permit) (p : Nat × Permit → Bool) :
    o.pending.countP p = (o.without call).countP p + (p (call, permit)).toNat := by
  obtain ⟨⟨number, found⟩, lookup, rfl⟩ := Option.map_eq_some_iff.mp held
  have same : number = call := by simpa using List.find?_some lookup
  exact countP_without distinct (same ▸ lookup) p

theorem pendingProbes_of_held (distinct : o.Distinct) {call : Nat} {permit : Permit}
    (held : o.permit? call = some permit) :
    o.pendingProbes = (o.without call).countP (·.2.probe) + permit.probe.toNat :=
  countP_of_held distinct held (·.2.probe)

/-! ## The tally of a half-open period -/

/-- A half-open circuit with `uncounted` pending probes beyond those it counts. -/
structure Tally (c : Config) (o : Overlap) (uncounted : Nat) : Prop where
  half : o.breaker.state = .halfOpen
  pending : o.pendingProbes = o.breaker.inFlight + uncounted
  within : o.breaker.inFlight ≤ c.probeLimit

theorem Tally.pendingProbes_le {uncounted : Nat} (tally : Tally c o uncounted) :
    o.pendingProbes ≤ c.probeLimit + uncounted := by
  rw [tally.pending]
  exact Nat.add_le_add_right tally.within uncounted

/-- The call that makes an open circuit half open is its first counted probe, and
whatever was pending before is not counted. -/
theorem Step.tally_of_opened {event : Event} {next : Overlap × List Metric}
    (step : Step c o event next) (distinct : o.Distinct) (opened : o.breaker.state = .opened)
    (half : next.1.breaker.state = .halfOpen) : Tally c next.1 o.pendingProbes := by
  have limit := c.probeLimit_pos
  cases step with
  | denied | strayFinish | strayDrop => simp [opened] at half
  | dropped => simp [opened] at half
  | ended held outcome => simpa [opened] using outcome.half_of_half half
  | begun entry free =>
      cases entry with
      | passed closed => simp [opened] at closed
      | probe half' => simp [opened] at half'
      | reopened =>
          refine ⟨rfl, ?_, limit⟩
          simp only [pendingProbes, without_of_free free, List.countP_cons, if_true]
          omega
  | @replaced call now permit older breaker metrics entry held =>
      cases entry with
      | passed closed => simp [opened] at closed
      | probe half' => simp [opened] at half'
      | reopened =>
          have before := pendingProbes_of_held distinct held
          have small := Bool.toNat_le older.probe
          refine ⟨by simp, ?_, ?_⟩
          · simp only [pendingProbes, List.countP_cons, if_true, Breaker.release_inFlight]
              at before ⊢
            omega
          · simp only [Breaker.release_inFlight]
            omega

/-- The end of a call lowers the counter only as far as zero, so an uncounted probe
may take a counted one's place but their number never grows. -/
theorem Tally.release {uncounted : Nat} (tally : Tally c o uncounted) (distinct : o.Distinct)
    {call : Nat} {permit : Permit} (held : o.permit? call = some permit) {next : Overlap}
    (half : next.breaker.state = .halfOpen)
    (counter : next.breaker.inFlight = (o.breaker.release permit).inFlight)
    (pending : next.pending = o.without call) :
    ∃ fewer ≤ uncounted, Tally c next fewer := by
  have before := pendingProbes_of_held distinct held
  have after : next.pendingProbes = (o.without call).countP (·.2.probe) := by
    rw [pendingProbes, pending]
  rw [Breaker.release_inFlight] at counter
  have small := Bool.toNat_le permit.probe
  have total := tally.pending
  have within := tally.within
  refine ⟨next.pendingProbes - next.breaker.inFlight, by omega, half, by omega, by omega⟩

/-- One event within a half-open period. -/
theorem Step.tally_of_half {event : Event} {next : Overlap × List Metric}
    (step : Step c o event next) (distinct : o.Distinct) {uncounted : Nat}
    (tally : Tally c o uncounted) (half : next.1.breaker.state = .halfOpen) :
    ∃ fewer ≤ uncounted, Tally c next.1 fewer := by
  have total := tally.pending
  cases step with
  | denied | strayFinish | strayDrop => exact ⟨uncounted, Nat.le_refl _, tally⟩
  | dropped held => exact tally.release distinct held half rfl rfl
  | ended held outcome => exact tally.release distinct held half outcome.inFlight_eq rfl
  | begun entry free =>
      cases entry with
      | passed closed => simp [tally.half] at closed
      | reopened opened => simp [tally.half] at opened
      | probe _ room =>
          refine ⟨uncounted, Nat.le_refl _, half, ?_, room⟩
          simp only [pendingProbes, without_of_free free, List.countP_cons, if_true] at total ⊢
          omega
  | @replaced call now permit older breaker metrics entry held =>
      cases entry with
      | passed closed => simp [tally.half] at closed
      | reopened opened => simp [tally.half] at opened
      | probe _ room =>
          -- The new probe is counted before the older call gives its place back.
          have before := pendingProbes_of_held distinct held
          have small := Bool.toNat_le older.probe
          refine ⟨uncounted, Nat.le_refl _, half, ?_, ?_⟩
          · simp only [pendingProbes, List.countP_cons, if_true, Breaker.release_inFlight]
              at before total ⊢
            omega
          · simp only [Breaker.release_inFlight]
            omega

/-! ## Half-open periods -/

/-- A stretch of a half-open period: `event` finds the circuit open after `earlier`
and begins the period, which lasts through `more`. -/
structure Period (c : Config) (earlier : List Event) (event : Event) (more : List Event) :
    Prop where
  opened : (after c earlier).breaker.state = .opened
  lasts : ∀ part, part <+: more →
    (after c (earlier ++ event :: part)).breaker.state = .halfOpen

theorem after_period_concat (earlier : List Event) (event : Event) (more : List Event)
    (last : Event) :
    after c (earlier ++ event :: (more ++ [last])) =
      ((after c (earlier ++ event :: more)).step c last).1 := by
  rw [← after_concat, List.append_assoc, List.cons_append]

namespace Period

variable {earlier more : List Event} {event : Event}

theorem half (period : Period c earlier event more) :
    (after c (earlier ++ event :: more)).breaker.state = .halfOpen :=
  period.lasts more (List.prefix_refl more)

theorem start (period : Period c earlier event more) : Period c earlier event [] :=
  ⟨period.opened, fun part within => period.lasts part (within.trans List.nil_prefix)⟩

theorem shorten {last : Event} (period : Period c earlier event (more ++ [last])) :
    Period c earlier event more :=
  ⟨period.opened, fun part within => period.lasts part (within.trans (List.prefix_append ..))⟩

theorem extend {last : Event} (period : Period c earlier event more)
    (half : (after c (earlier ++ event :: (more ++ [last]))).breaker.state = .halfOpen) :
    Period c earlier event (more ++ [last]) := by
  refine ⟨period.opened, fun part within => ?_⟩
  rcases List.prefix_concat_iff.mp within with rfl | shorter
  · simpa using half
  · exact period.lasts part shorter

/-- Throughout a period no more probes are uncounted than were pending before it. -/
theorem tally (period : Period c earlier event more) :
    ∃ uncounted ≤ (after c earlier).pendingProbes,
      Tally c (after c (earlier ++ event :: more)) uncounted := by
  induction more using List.reverseRecOn with
  | nil =>
      have step := step_spec c (after c earlier) event
      have half := period.half
      rw [after_concat] at half ⊢
      exact ⟨_, Nat.le_refl _, step.tally_of_opened (distinct_after c earlier) period.opened half⟩
  | append_singleton more last ih =>
      obtain ⟨uncounted, few, tally⟩ := ih period.shorten
      have step := step_spec c (after c (earlier ++ event :: more)) last
      have half := period.half
      rw [after_period_concat] at half ⊢
      obtain ⟨fewer, less, tally'⟩ := step.tally_of_half (distinct_after c _) tally half
      exact ⟨fewer, Nat.le_trans less few, tally'⟩

/-- At most `probeLimit` probes beyond those carried into the period. -/
theorem pendingProbes_le (period : Period c earlier event more) :
    (after c (earlier ++ event :: more)).pendingProbes ≤
      c.probeLimit + (after c earlier).pendingProbes := by
  obtain ⟨uncounted, few, tally⟩ := period.tally
  exact Nat.le_trans tally.pendingProbes_le (Nat.add_le_add_left few _)

end Period

/-! ## The bound is reached -/

theorem exists_free (o : Overlap) : ∃ call, o.permit? call = none := by
  obtain ⟨call, fresh⟩ := Infinite.exists_notMem_finset (o.pending.map (·.1)).toFinset
  refine ⟨call, ?_⟩
  simp only [List.mem_toFinset, List.mem_map, not_exists, not_and] at fresh
  simpa [permit?, List.find?_eq_none] using fun number permit member equal =>
    fresh (number, permit) member equal

/-- A half-open circuit with a place left takes one more probe. -/
theorem Tally.exists_start {uncounted : Nat} (tally : Tally c o uncounted)
    (room : o.breaker.inFlight < c.probeLimit) :
    ∃ event, Tally c (o.step c event).1 uncounted ∧
      (o.step c event).1.breaker.inFlight = o.breaker.inFlight + 1 := by
  obtain ⟨call, free⟩ := o.exists_free
  refine ⟨.start call 0, ?_⟩
  have step := step_spec c o (.start call 0)
  generalize o.step c (.start call 0) = next at step ⊢
  cases step with
  | denied entry =>
      cases entry with
      | cooling opened => simp [tally.half] at opened
      | full _ spent => exact absurd room (Nat.not_lt.mpr spent)
  | replaced _ held => simp [free] at held
  | begun entry _ =>
      cases entry with
      | passed closed => simp [tally.half] at closed
      | reopened opened => simp [tally.half] at opened
      | probe half _ =>
          refine ⟨⟨half, ?_, room⟩, rfl⟩
          have total := tally.pending
          simp only [pendingProbes, without_of_free free, List.countP_cons, if_true] at total ⊢
          omega

namespace Period

variable {earlier more : List Event} {event : Event}

/-- Within a period, calls that begin one after the other take every place left. -/
theorem exists_spent {uncounted : Nat} (room : Nat) (period : Period c earlier event more)
    (tally : Tally c (after c (earlier ++ event :: more)) uncounted)
    (left : (after c (earlier ++ event :: more)).breaker.inFlight + room = c.probeLimit) :
    ∃ others, Period c earlier event others ∧
      (after c (earlier ++ event :: others)).pendingProbes = c.probeLimit + uncounted := by
  induction room generalizing more with
  | zero =>
      refine ⟨more, period, ?_⟩
      rw [tally.pending]
      omega
  | succ room ih =>
      obtain ⟨start, next, counter⟩ := tally.exists_start (by omega)
      rw [← after_period_concat] at next counter
      exact ih (period.extend next.half) next (by omega)

/-- A period can have `probeLimit` probes pending beyond those carried into it. -/
theorem exists_full (period : Period c earlier event more) :
    ∃ others, Period c earlier event others ∧
      (after c (earlier ++ event :: others)).pendingProbes =
        c.probeLimit + (after c earlier).pendingProbes := by
  have step := step_spec c (after c earlier) event
  have half := period.start.half
  rw [after_concat] at half
  have tally := step.tally_of_opened (distinct_after c earlier) period.opened half
  rw [← after_concat] at tally
  exact period.start.exists_spent _ tally (Nat.add_sub_cancel' tally.within)

end Period

/-! ## The exact condition -/

theorem Step.not_half_of_closed {event : Event} {next : Overlap × List Metric}
    (step : Step c o event next) (closed : o.breaker.state = .closed) :
    next.1.breaker.state ≠ .halfOpen := by
  intro half
  cases step with
  | denied | strayFinish | strayDrop | dropped => simp [closed] at half
  | ended held outcome => simpa [closed] using outcome.half_of_half half
  | begun entry | replaced entry =>
      cases entry with
      | passed => simp [closed] at half
      | reopened opened => simp [closed] at opened
      | probe half' => simp [closed] at half'

/-- Whenever the circuit is half open, its history says where the period began. -/
theorem exists_period (c : Config) (events : List Event)
    (half : (after c events).breaker.state = .halfOpen) :
    ∃ earlier event more, events = earlier ++ event :: more ∧ Period c earlier event more := by
  induction events using List.reverseRecOn with
  | nil => simp [initial, Breaker.initial] at half
  | append_singleton events event ih =>
      cases found : (after c events).breaker.state with
      | closed =>
          rw [after_concat] at half
          exact absurd half ((step_spec c _ event).not_half_of_closed found)
      | opened =>
          refine ⟨events, event, [], rfl, found, fun part within => ?_⟩
          rw [List.prefix_nil.mp within]
          exact half
      | halfOpen =>
          obtain ⟨earlier, first, more, rfl, period⟩ := ih found
          refine ⟨earlier, first, more ++ [event], by simp, period.extend ?_⟩
          simpa using half

/-- **The bound on probes, exactly.**  Whenever the circuit is half open, no more
probes are pending than the limit and those that were pending when the period began;
and the period keeps within the limit alone, in whichever way it may go on, exactly
when it began with no probe pending. -/
theorem halfOpen_probe_bound (c : Config) (events : List Event)
    (half : (after c events).breaker.state = .halfOpen) :
    ∃ earlier event more, events = earlier ++ event :: more ∧ Period c earlier event more ∧
      (after c events).pendingProbes ≤ c.probeLimit + (after c earlier).pendingProbes ∧
      ((∀ others, Period c earlier event others →
          (after c (earlier ++ event :: others)).pendingProbes ≤ c.probeLimit) ↔
        (after c earlier).pendingProbes = 0) := by
  obtain ⟨earlier, event, more, rfl, period⟩ := exists_period c events half
  refine ⟨earlier, event, more, rfl, period, period.pendingProbes_le, fun kept => ?_, ?_⟩
  · obtain ⟨others, period', spent⟩ := period.exists_full
    have bound := kept others period'
    omega
  · intro none others period'
    have bound := period'.pendingProbes_le
    omega

/-- One probe at a time, and a single failure opens the circuit. -/
def strict : Config where
  failureThreshold := 1
  successThreshold := 2
  cooldown := .ofSeconds 30
  probes := 1

/-- Two calls begin while the circuit is closed.  The first one's failure opens it and
the second one's ends the half-open period in which call 3 is a probe, so that call 4
begins another one while call 3 is still pending. -/
def carriedProbe : List Event :=
  [.start 1 0, .start 2 0, .finish 1 false 0, .start 3 30000000000, .finish 2 false 30000000000,
    .start 4 60000000000]

/-- Two probes are pending at once where one is the limit, one of them carried into
the period. -/
theorem probe_bound_carriedProbe :
    (after strict carriedProbe).breaker.state = .halfOpen ∧
      strict.probeLimit = 1 ∧ (after strict carriedProbe).pendingProbes = 2 ∧
      ∃ earlier event more, carriedProbe = earlier ++ event :: more ∧
        Period strict earlier event more ∧
        (after strict carriedProbe).pendingProbes ≤
          strict.probeLimit + (after strict earlier).pendingProbes ∧
        ((∀ others, Period strict earlier event others →
            (after strict (earlier ++ event :: others)).pendingProbes ≤ strict.probeLimit) ↔
          (after strict earlier).pendingProbes = 0) :=
  ⟨by decide, by decide, by decide, halfOpen_probe_bound strict carriedProbe (by decide)⟩

end Courier.Circuit.Overlap
