/-
# Courier.Proofs.Circuit.Step -- what one operation and one event do to a breaker

Every operation of a breaker is one of a few named cases, and each case says
everything the operation does: the state it finds, the guard it passed, the breaker
it leaves and the metrics it records.

* `Breaker.Entry`: a call asks for leave (`enter_entry`);
* `Breaker.Recorded`: an outcome is recorded (`settle_recorded`);
* `Overlap.Step`: an event happens to a breaker with calls in the air (`step_spec`).

Statements about runs take a step apart with these and never unfold the operations.
`Overlap.after` is the situation a history leads to from the start; in it no two
pending calls share a number (`distinct_after`).
-/
import Courier.Circuit.Overlap
import Mathlib.Data.List.Induction

namespace Courier.Circuit

set_option autoImplicit false

namespace Config

/-- Failures in a row that actually open the circuit: at least one. -/
def failureLimit (c : Config) : Nat := max 1 c.failureThreshold.toNat

/-- Successes that actually close it: at least one. -/
def successLimit (c : Config) : Nat := max 1 c.successThreshold.toNat

theorem probeLimit_pos (c : Config) : 0 < c.probeLimit :=
  Nat.lt_of_lt_of_le Nat.zero_lt_one (Nat.le_max_left ..)

@[simp] theorem failureLimit_pos (c : Config) : 0 < c.failureLimit :=
  Nat.lt_of_lt_of_le Nat.zero_lt_one (Nat.le_max_left ..)

@[simp] theorem successLimit_pos (c : Config) : 0 < c.successLimit :=
  Nat.lt_of_lt_of_le Nat.zero_lt_one (Nat.le_max_left ..)

end Config

namespace Breaker

/-! ## Asking for leave -/

/-- What asking for leave answers, by the state it finds. -/
inductive Entry (c : Config) (now : Instant) (b : Breaker) : Admission → Prop where
  /-- A closed circuit lets everything through. -/
  | passed (closed : b.state = .closed) : Entry c now b ⟨some ⟨false⟩, b, []⟩
  /-- An open one turns calls away until it has cooled. -/
  | cooling (opened : b.state = .opened) (hot : b.cooled c now = false) :
      Entry c now b ⟨none, b, [.call .opened .rejected]⟩
  /-- Then it becomes half open, with this call as its first probe. -/
  | reopened (opened : b.state = .opened) (cool : b.cooled c now = true) :
      Entry c now b
        ⟨some ⟨true⟩, { b with state := .halfOpen, successes := 0, inFlight := 1 },
          [.transition .opened .halfOpen]⟩
  /-- A half-open circuit with all its probes out turns calls away. -/
  | full (half : b.state = .halfOpen) (spent : c.probeLimit ≤ b.inFlight) :
      Entry c now b ⟨none, b, [.call .halfOpen .rejected]⟩
  | probe (half : b.state = .halfOpen) (room : b.inFlight < c.probeLimit) :
      Entry c now b ⟨some ⟨true⟩, { b with inFlight := b.inFlight + 1 }, []⟩

theorem enter_entry (c : Config) (now : Instant) (b : Breaker) :
    Entry c now b (b.enter c now) := by
  cases found : b.state with
  | closed =>
      have answer : b.enter c now = ⟨some ⟨false⟩, b, []⟩ := by
        simp [enter, admitThrough, found]
      rw [answer]
      exact .passed found
  | opened =>
      cases cool : b.cooled c now with
      | false =>
          have answer : b.enter c now = ⟨none, b, [.call .opened .rejected]⟩ := by
            simp [enter, found, cool]
          rw [answer]
          exact .cooling found cool
      | true =>
          -- The counter has just been reset, so there is always room for one probe.
          have room : ¬ c.probeLimit ≤ 0 := Nat.not_le.mpr c.probeLimit_pos
          have answer : b.enter c now =
              ⟨some ⟨true⟩, { b with state := .halfOpen, successes := 0, inFlight := 1 },
                [.transition .opened .halfOpen]⟩ := by
            simp only [enter, moveTo, admitThrough, found, cool, if_true, reduceCtorEq, if_false,
              if_neg room, Nat.zero_add, List.append_nil]
          rw [answer]
          exact .reopened found cool
  | halfOpen =>
      by_cases spent : c.probeLimit ≤ b.inFlight
      · have answer : b.enter c now = ⟨none, b, [.call .halfOpen .rejected]⟩ := by
          simp [enter, admitThrough, found, spent]
        rw [answer]
        exact .full found spent
      · have answer : b.enter c now =
            ⟨some ⟨true⟩, { b with inFlight := b.inFlight + 1 }, []⟩ := by
          simp [enter, admitThrough, found, spent]
        rw [answer]
        exact .probe found (Nat.lt_of_not_le spent)

/-- An answer that fits the breaker is the answer it gives. -/
theorem Entry.eq_enter {c : Config} {now : Instant} {b : Breaker} {admission : Admission}
    (entry : Entry c now b admission) : b.enter c now = admission := by
  have given := enter_entry c now b
  generalize b.enter c now = answer at given
  cases entry with
  | passed closed => cases given <;> simp_all
  | cooling opened hot => cases given <;> simp_all
  | reopened opened cool => cases given <;> simp_all
  | full half spent =>
      cases given with
      | probe _ room => exact absurd spent (Nat.not_le.mpr room)
      | passed other | cooling other | reopened other => simp [half] at other
      | full => rfl
  | probe half room =>
      cases given with
      | full _ spent => exact absurd spent (Nat.not_le.mpr room)
      | passed other | cooling other | reopened other => simp [half] at other
      | probe => rfl

/-- Turning a call away leaves the breaker as it is. -/
theorem Entry.eq_of_denied {c : Config} {now : Instant} {b breaker : Breaker}
    {metrics : List Metric} (entry : Entry c now b ⟨none, breaker, metrics⟩) : breaker = b := by
  cases entry with
  | cooling => rfl
  | full => rfl

/-- Metrics of nothing but transitions. -/
def Moves (metrics : List Metric) : Prop :=
  ∀ m ∈ metrics, ∃ source target, m = .transition source target

theorem moves_nil : Moves [] := fun _ member => nomatch member

theorem moves_singleton (source target : State) : Moves [.transition source target] := by
  intro m member
  exact ⟨source, target, List.mem_singleton.mp member⟩

/-- A call that is let through is counted when it ends, not when it begins. -/
theorem Entry.moves_of_granted {c : Config} {now : Instant} {b breaker : Breaker}
    {permit : Permit} {metrics : List Metric}
    (entry : Entry c now b ⟨some permit, breaker, metrics⟩) : Moves metrics := by
  cases entry with
  | passed | probe => exact moves_nil
  | reopened => exact moves_singleton _ _

/-- One that is turned away is counted under the state that does so. -/
theorem Entry.metrics_of_denied {c : Config} {now : Instant} {b breaker : Breaker}
    {metrics : List Metric} (entry : Entry c now b ⟨none, breaker, metrics⟩) :
    metrics = [.call b.state .rejected] := by
  cases entry with
  | cooling opened => rw [opened]
  | full half => rw [half]

/-- What an open circuit answers to a call. -/
theorem enter_of_opened {b : Breaker} (c : Config) (now : Instant)
    (opened : b.state = .opened) :
    b.enter c now =
      if b.cooled c now then
        ⟨some ⟨true⟩, { b with state := .halfOpen, successes := 0, inFlight := 1 },
          [.transition .opened .halfOpen]⟩
      else ⟨none, b, [.call .opened .rejected]⟩ := by
  have entry := enter_entry c now b
  generalize b.enter c now = admission at entry ⊢
  cases entry with
  | passed closed => simp [opened] at closed
  | full half | probe half => simp [opened] at half
  | cooling _ hot => rw [hot, if_neg Bool.false_ne_true]
  | reopened _ cool => rw [cool, if_pos rfl]

/-- A half-open circuit lets a call through as a probe, or has all its places taken. -/
theorem enter_of_half {b : Breaker} (c : Config) (now : Instant) (half : b.state = .halfOpen) :
    (b.enter c now).permit = some ⟨true⟩ ∨
      (b.enter c now).permit = none ∧ c.probeLimit ≤ b.inFlight := by
  have entry := enter_entry c now b
  generalize b.enter c now = admission at entry ⊢
  cases entry with
  | passed closed => simp [half] at closed
  | cooling opened | reopened opened => simp [half] at opened
  | full _ spent => exact .inr ⟨rfl, spent⟩
  | probe => exact .inl rfl

/-! ## Giving a place back

A release touches the number of probes counted as out, and nothing else. -/

@[simp] theorem release_state (p : Permit) (b : Breaker) : (b.release p).state = b.state := by
  unfold release
  split <;> rfl

@[simp] theorem release_failures (p : Permit) (b : Breaker) :
    (b.release p).failures = b.failures := by
  unfold release
  split <;> rfl

@[simp] theorem release_successes (p : Permit) (b : Breaker) :
    (b.release p).successes = b.successes := by
  unfold release
  split <;> rfl

@[simp] theorem release_lastFailure (p : Permit) (b : Breaker) :
    (b.release p).lastFailure = b.lastFailure := by
  unfold release
  split <;> rfl

@[simp] theorem release_inFlight (p : Permit) (b : Breaker) :
    (b.release p).inFlight = b.inFlight - p.probe.toNat := by
  unfold release
  cases p.probe <;> rfl

/-! ## Recording an outcome -/

/-- What an outcome does to a breaker, by the state it finds. -/
inductive Recorded (c : Config) (now : Instant) (b : Breaker) :
    Bool → Breaker × List Metric → Prop where
  /-- A success ends the run of failures. -/
  | cleared (closed : b.state = .closed) :
      Recorded c now b true ({ b with failures := 0 }, [])
  | lateSuccess (opened : b.state = .opened) : Recorded c now b true (b, [])
  | counted (half : b.state = .halfOpen)
      (few : b.successes + 1 < c.successThreshold.toNat) :
      Recorded c now b true ({ b with successes := b.successes + 1 }, [])
  /-- Enough successes close the circuit. -/
  | recovered (half : b.state = .halfOpen)
      (enough : c.successThreshold.toNat ≤ b.successes + 1) :
      Recorded c now b true
        ({ b with state := .closed, failures := 0, successes := 0 },
          [.transition .halfOpen .closed])
  | suffered (unprobed : b.state ≠ .halfOpen)
      (few : b.failures + 1 < c.failureThreshold.toNat) :
      Recorded c now b false ({ b with failures := b.failures + 1, lastFailure := some now }, [])
  /-- Enough failures in a row open it. -/
  | tripped (closed : b.state = .closed)
      (enough : c.failureThreshold.toNat ≤ b.failures + 1) :
      Recorded c now b false
        ({ b with state := .opened, failures := 0, lastFailure := some now },
          [.transition .closed .opened])
  /-- An open circuit only starts its count over. -/
  | lateFailure (opened : b.state = .opened)
      (enough : c.failureThreshold.toNat ≤ b.failures + 1) :
      Recorded c now b false ({ b with failures := 0, lastFailure := some now }, [])
  | relapsed (half : b.state = .halfOpen) :
      Recorded c now b false
        ({ b with state := .opened, failures := 0, lastFailure := some now },
          [.transition .halfOpen .opened])

theorem recordSuccess_recorded (c : Config) (now : Instant) (b : Breaker) :
    Recorded c now b true (b.recordSuccess c) := by
  cases found : b.state with
  | closed =>
      have answer : b.recordSuccess c = ({ b with failures := 0 }, []) := by
        simp [recordSuccess, found]
      rw [answer]
      exact .cleared found
  | opened =>
      have answer : b.recordSuccess c = (b, []) := by simp [recordSuccess, found]
      rw [answer]
      exact .lateSuccess found
  | halfOpen =>
      by_cases enough : c.successThreshold.toNat ≤ b.successes + 1
      · have answer : b.recordSuccess c =
            ({ b with state := .closed, failures := 0, successes := 0 },
              [.transition .halfOpen .closed]) := by
          simp [recordSuccess, moveTo, found, enough]
        rw [answer]
        exact .recovered found enough
      · have answer : b.recordSuccess c = ({ b with successes := b.successes + 1 }, []) := by
          simp [recordSuccess, found, enough]
        rw [answer]
        exact .counted found (Nat.lt_of_not_le enough)

theorem recordFailure_recorded (c : Config) (now : Instant) (b : Breaker) :
    Recorded c now b false (b.recordFailure c now) := by
  cases found : b.state with
  | halfOpen =>
      have answer : b.recordFailure c now =
          ({ b with state := .opened, failures := 0, lastFailure := some now },
            [.transition .halfOpen .opened]) := by
        simp [recordFailure, moveTo, found]
      rw [answer]
      exact .relapsed found
  | closed =>
      by_cases enough : c.failureThreshold.toNat ≤ b.failures + 1
      · have answer : b.recordFailure c now =
            ({ b with state := .opened, failures := 0, lastFailure := some now },
              [.transition .closed .opened]) := by
          simp [recordFailure, moveTo, found, enough]
        rw [answer]
        exact .tripped found enough
      · have answer : b.recordFailure c now =
            ({ b with failures := b.failures + 1, lastFailure := some now }, []) := by
          simp [recordFailure, found, enough]
        rw [answer]
        exact .suffered (by simp [found]) (Nat.lt_of_not_le enough)
  | opened =>
      by_cases enough : c.failureThreshold.toNat ≤ b.failures + 1
      · have answer : b.recordFailure c now =
            ({ b with failures := 0, lastFailure := some now }, []) := by
          simp [recordFailure, moveTo, found, enough]
        rw [answer]
        exact .lateFailure found enough
      · have answer : b.recordFailure c now =
            ({ b with failures := b.failures + 1, lastFailure := some now }, []) := by
          simp [recordFailure, found, enough]
        rw [answer]
        exact .suffered (by simp [found]) (Nat.lt_of_not_le enough)

/-- Recording an outcome leaves the probes alone. -/
theorem Recorded.inFlight_eq {c : Config} {now : Instant} {b : Breaker} {success : Bool}
    {recorded : Breaker × List Metric} (outcome : Recorded c now b success recorded) :
    recorded.1.inFlight = b.inFlight := by
  cases outcome <;> rfl

/-- Recording an outcome counts nothing but the transition it makes. -/
theorem Recorded.moves {c : Config} {now : Instant} {b : Breaker} {success : Bool}
    {recorded : Breaker × List Metric} (outcome : Recorded c now b success recorded) :
    Moves recorded.2 := by
  cases outcome with
  | cleared | lateSuccess | counted | suffered | lateFailure => exact moves_nil
  | recovered | tripped | relapsed => exact moves_singleton _ _

/-- An outcome never begins a half-open period. -/
theorem Recorded.half_of_half {c : Config} {now : Instant} {b : Breaker} {success : Bool}
    {recorded : Breaker × List Metric} (outcome : Recorded c now b success recorded)
    (half : recorded.1.state = .halfOpen) : b.state = .halfOpen := by
  cases outcome with
  | cleared | lateSuccess | suffered | lateFailure => exact half
  | counted half' | recovered half' | relapsed half' => exact half'
  | tripped => simp at half

/-- How the end of a call is counted. -/
def result (success : Bool) : Metric.CallResult := if success then .success else .failure

/-- Settling gives the place back, then records the outcome, and counts the call
under the state it found. -/
theorem settle_recorded (c : Config) (now : Instant) (p : Permit) (success : Bool)
    (b : Breaker) :
    ∃ recorded, Recorded c now (b.release p) success recorded ∧
      b.settle c now p success = (recorded.1, .call b.state (result success) :: recorded.2) := by
  cases success with
  | true => exact ⟨_, recordSuccess_recorded c now (b.release p), rfl⟩
  | false => exact ⟨_, recordFailure_recorded c now (b.release p), rfl⟩

end Breaker

namespace Overlap

/-! ## Events -/

/-- What an event does to a breaker with calls in the air. -/
inductive Step (c : Config) (o : Overlap) : Event → Overlap × List Metric → Prop where
  | denied {call : Nat} {now : Instant} {metrics : List Metric}
      (entry : Breaker.Entry c now o.breaker ⟨none, o.breaker, metrics⟩) :
      Step c o (.start call now) (o, metrics)
  | begun {call : Nat} {now : Instant} {permit : Permit} {breaker : Breaker}
      {metrics : List Metric}
      (entry : Breaker.Entry c now o.breaker ⟨some permit, breaker, metrics⟩)
      (free : o.permit? call = none) :
      Step c o (.start call now) (⟨breaker, (call, permit) :: o.without call⟩, metrics)
  /-- A call begun under a number still in use takes the place of the older one. -/
  | replaced {call : Nat} {now : Instant} {permit older : Permit} {breaker : Breaker}
      {metrics : List Metric}
      (entry : Breaker.Entry c now o.breaker ⟨some permit, breaker, metrics⟩)
      (held : o.permit? call = some older) :
      Step c o (.start call now)
        (⟨breaker.release older, (call, permit) :: o.without call⟩, metrics)
  | ended {call : Nat} {success : Bool} {now : Instant} {permit : Permit}
      {recorded : Breaker × List Metric}
      (held : o.permit? call = some permit)
      (outcome : Breaker.Recorded c now (o.breaker.release permit) success recorded) :
      Step c o (.finish call success now)
        (⟨recorded.1, o.without call⟩,
          .call o.breaker.state (Breaker.result success) :: recorded.2)
  | dropped {call : Nat} {permit : Permit} (held : o.permit? call = some permit) :
      Step c o (.drop call) (⟨o.breaker.release permit, o.without call⟩, [])
  /-- The end of a call that is not pending changes nothing. -/
  | strayFinish {call : Nat} {success : Bool} {now : Instant} (gone : o.permit? call = none) :
      Step c o (.finish call success now) (o, [])
  | strayDrop {call : Nat} (gone : o.permit? call = none) : Step c o (.drop call) (o, [])

theorem step_spec (c : Config) (o : Overlap) (event : Event) :
    Step c o event (o.step c event) := by
  cases event with
  | start call now =>
      have entry := Breaker.enter_entry c now o.breaker
      rcases answer : o.breaker.enter c now with ⟨permit?, breaker, metrics⟩
      rw [answer] at entry
      cases permit? with
      | none =>
          obtain rfl := entry.eq_of_denied
          have stepped : o.step c (.start call now) = (o, metrics) := by
            simp [step, start, answer]
          rw [stepped]
          exact .denied entry
      | some permit =>
          cases held : o.permit? call with
          | none =>
              have stepped : o.step c (.start call now) =
                  (⟨breaker, (call, permit) :: o.without call⟩, metrics) := by
                simp [step, start, answer, held]
              rw [stepped]
              exact .begun entry held
          | some older =>
              have stepped : o.step c (.start call now) =
                  (⟨breaker.release older, (call, permit) :: o.without call⟩, metrics) := by
                simp [step, start, answer, held, Breaker.abandon]
              rw [stepped]
              exact .replaced entry held
  | finish call success now =>
      cases held : o.permit? call with
      | none =>
          have stepped : o.step c (.finish call success now) = (o, []) := by
            simp [step, finish, held]
          rw [stepped]
          exact .strayFinish held
      | some permit =>
          obtain ⟨recorded, outcome, settled⟩ :=
            Breaker.settle_recorded c now permit success o.breaker
          have stepped : o.step c (.finish call success now) =
              (⟨recorded.1, o.without call⟩,
                .call o.breaker.state (Breaker.result success) :: recorded.2) := by
            simp [step, finish, held, settled]
          rw [stepped]
          exact .ended held outcome
  | drop call =>
      cases held : o.permit? call with
      | none =>
          have stepped : o.step c (.drop call) = (o, []) := by simp [step, drop, held]
          rw [stepped]
          exact .strayDrop held
      | some permit =>
          have stepped : o.step c (.drop call) =
              (⟨o.breaker.release permit, o.without call⟩, []) := by
            simp [step, drop, held, Breaker.abandon]
          rw [stepped]
          exact .dropped held

/-! ## Histories -/

theorem run_append (c : Config) (o : Overlap) (events more : List Event) :
    (o.run c (events ++ more)).1 = ((o.run c events).1.run c more).1 := by
  induction events generalizing o with
  | nil => rfl
  | cons event events ih => simpa [run] using ih (o.step c event).1

/-- The situation after a history that begins with a new breaker. -/
def after (c : Config) (events : List Event) : Overlap := (initial.run c events).1

@[simp] theorem after_nil (c : Config) : after c [] = initial := rfl

theorem after_append (c : Config) (events more : List Event) :
    after c (events ++ more) = ((after c events).run c more).1 :=
  run_append c initial events more

theorem after_concat (c : Config) (events : List Event) (event : Event) :
    after c (events ++ [event]) = ((after c events).step c event).1 :=
  after_append c events [event]

/-! ## Pending calls -/

/-- No two pending calls share a number. -/
def Distinct (o : Overlap) : Prop := (o.pending.map (·.1)).Nodup

theorem without_sublist (o : Overlap) (call : Nat) : (o.without call).Sublist o.pending :=
  List.filter_sublist

theorem nodup_without {o : Overlap} (distinct : o.Distinct) (call : Nat) :
    ((o.without call).map (·.1)).Nodup :=
  List.Nodup.sublist ((o.without_sublist call).map _) distinct

theorem nodup_cons_without {o : Overlap} (distinct : o.Distinct) (call : Nat) (p : Permit) :
    (((call, p) :: o.without call).map (·.1)).Nodup := by
  rw [List.map_cons, List.nodup_cons]
  refine ⟨?_, nodup_without distinct call⟩
  simp [without]

theorem Step.distinct {c : Config} {o : Overlap} {event : Event} {next : Overlap × List Metric}
    (step : Step c o event next) (distinct : o.Distinct) : next.1.Distinct := by
  cases step with
  | denied => exact distinct
  | begun => exact nodup_cons_without distinct ..
  | replaced => exact nodup_cons_without distinct ..
  | ended => exact nodup_without distinct ..
  | dropped => exact nodup_without distinct ..
  | strayFinish => exact distinct
  | strayDrop => exact distinct

theorem distinct_after (c : Config) (events : List Event) : (after c events).Distinct := by
  induction events using List.reverseRecOn with
  | nil => exact List.nodup_nil
  | append_singleton events event ih =>
      rw [after_concat]
      exact (step_spec c _ event).distinct ih

end Overlap

end Courier.Circuit
