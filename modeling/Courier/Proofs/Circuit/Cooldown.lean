/-
# Courier.Proofs.Circuit.Cooldown -- how long an open circuit turns calls away

An open circuit waits for its cooldown, and the wait is counted from the latest failure
that any call has recorded, not from the one that opened the circuit: calls that were let
through before may still fail while it is open, and each such failure begins the wait anew.
So what decides is the list of all failures recorded so far (`failures`), of which the
breaker keeps the last (`lastFailure_after`); an open circuit has recorded one
(`failed_after`), and with a clock that does not go back none is later than a call that
arrives (`le_of_mem_failures`).

`fail_fast` is the law for every open circuit that a history leads to.  A call that arrives
before the wait is over changes nothing; the first one that arrives when it is over, at the
very instant or later, is let through as the only counted probe.  Through a stretch in which
every call comes too early (`Quiet`) the circuit stays open and nothing is begun.
-/
import Courier.Proofs.Circuit.Slots
import Courier.Proofs.Circuit.Outcomes

namespace Courier.Circuit

set_option autoImplicit false

namespace Event

/-- What the clock reads when it happens; a drop does not look at it. -/
def time? : Event → Option Instant
  | .start _ now => some now
  | .finish _ _ now => some now
  | .drop _ => none

/-- A clock that never goes back. -/
def Ordered (events : List Event) : Prop := (events.filterMap time?).Pairwise (· ≤ ·)

instance (events : List Event) : Decidable (Ordered events) :=
  inferInstanceAs (Decidable (List.Pairwise _ _))

theorem Ordered.of_append {events more : List Event} (ordered : Ordered (events ++ more)) :
    Ordered events := by
  rw [Ordered, List.filterMap_append, List.pairwise_append] at ordered
  exact ordered.1

theorem Ordered.le_of_start {events : List Event} {call : Nat} {now : Instant}
    (ordered : Ordered (events ++ [.start call now])) :
    ∀ time ∈ events.filterMap time?, time ≤ now := by
  rw [Ordered, List.filterMap_append, List.pairwise_append] at ordered
  exact fun time member => ordered.2.2 time member now (List.mem_singleton.mpr rfl)

end Event

namespace Overlap

variable {c : Config} {o : Overlap} {events more : List Event}

/-! ## The failures of a history -/

/-- When an event records a failure: that of a pending call that ends badly. -/
def failedAt? (o : Overlap) : Event → Option Instant
  | .finish call false now => (o.permit? call).map fun _ => now
  | _ => none

def failuresFrom (c : Config) : Overlap → List Event → List Instant
  | _, [] => []
  | o, event :: events =>
      (o.failedAt? event).toList ++ failuresFrom c (o.step c event).1 events

/-- The instants at which a history records failures, oldest first. -/
def failures (c : Config) (events : List Event) : List Instant := failuresFrom c initial events

/-- When the history last recorded a failure, in whatever state the circuit was. -/
def latestFailure (c : Config) (events : List Event) : Option Instant :=
  (failures c events).getLast?

theorem failuresFrom_concat (o : Overlap) (events : List Event) (event : Event) :
    failuresFrom c o (events ++ [event]) =
      failuresFrom c o events ++ ((o.run c events).1.failedAt? event).toList := by
  induction events generalizing o with
  | nil => simp [failuresFrom, run]
  | cons first events ih =>
      rw [List.cons_append, failuresFrom, failuresFrom, ih, List.append_assoc]
      rfl

theorem failures_concat (c : Config) (events : List Event) (event : Event) :
    failures c (events ++ [event]) =
      failures c events ++ ((after c events).failedAt? event).toList :=
  failuresFrom_concat initial events event

theorem failedAt?_toList_sublist (o : Overlap) (event : Event) :
    (o.failedAt? event).toList.Sublist event.time?.toList := by
  cases event with
  | start | drop => exact List.nil_sublist _
  | finish call success now =>
      cases success with
      | true => exact List.nil_sublist _
      | false => cases held : o.permit? call <;> simp [failedAt?, held, Event.time?]

theorem failures_sublist (c : Config) (events : List Event) :
    (failures c events).Sublist (events.filterMap Event.time?) := by
  induction events using List.reverseRecOn with
  | nil => exact List.Sublist.refl []
  | append_singleton events event ih =>
      have last : [event].filterMap Event.time? = event.time?.toList := by
        cases time : event.time? <;> simp [time]
      rw [failures_concat, List.filterMap_append, last]
      exact ih.append (failedAt?_toList_sublist _ event)

/-- A call finds no failure recorded after it. -/
theorem le_of_mem_failures {call : Nat} {now : Instant}
    (ordered : Event.Ordered (events ++ [.start call now])) :
    ∀ failure ∈ failures c events, failure ≤ now := fun failure member =>
  ordered.le_of_start failure ((failures_sublist c events).subset member)

/-- The latest failure is later than all others. -/
theorem le_latestFailure (ordered : Event.Ordered events) {failure : Instant}
    (latest : latestFailure c events = some failure) :
    ∀ earlier ∈ failures c events, earlier ≤ failure := by
  have sorted : (failures c events).Pairwise (· ≤ ·) :=
    List.Pairwise.sublist (failures_sublist c events) ordered
  obtain ⟨before, split⟩ := List.getLast?_eq_some_iff.mp latest
  rw [split, List.pairwise_append] at sorted
  intro earlier member
  rw [split, List.mem_append, List.mem_singleton] at member
  rcases member with inside | rfl
  · exact sorted.2.2 earlier inside failure (List.mem_singleton.mpr rfl)
  · exact Nat.le_refl earlier

/-! ## What the breaker keeps of them -/

theorem lastFailure_of_entry {now : Instant} {b breaker : Breaker} {permit : Option Permit}
    {metrics : List Metric} (entry : Breaker.Entry c now b ⟨permit, breaker, metrics⟩) :
    breaker.lastFailure = b.lastFailure := by
  cases entry <;> rfl

/-- A call that asks for leave finds the circuit closed or leaves it not so. -/
theorem unclosed_of_entry {now : Instant} {b breaker : Breaker} {permit : Option Permit}
    {metrics : List Metric} (entry : Breaker.Entry c now b ⟨permit, breaker, metrics⟩)
    (unclosed : breaker.state ≠ .closed) : b.state ≠ .closed := by
  cases entry with
  | passed | cooling | full | probe => exact unclosed
  | reopened opened => simp [opened]

theorem Step.lastFailure_eq {event : Event} {next : Overlap × List Metric}
    (step : Step c o event next) :
    next.1.breaker.lastFailure = (o.failedAt? event).or o.breaker.lastFailure := by
  cases step with
  | denied | strayDrop => rfl
  | @strayFinish call success now gone => cases success <;> simp [failedAt?, gone]
  | begun entry => exact lastFailure_of_entry entry
  | replaced entry =>
      exact (Breaker.release_lastFailure ..).trans (lastFailure_of_entry entry)
  | dropped => exact Breaker.release_lastFailure ..
  | ended held outcome => cases outcome <;> simp [failedAt?, held]

/-- The breaker keeps the latest failure of its history. -/
theorem lastFailure_after (c : Config) (events : List Event) :
    (after c events).breaker.lastFailure = latestFailure c events := by
  induction events using List.reverseRecOn with
  | nil => rfl
  | append_singleton events event ih =>
      rw [after_concat, (step_spec c _ event).lastFailure_eq, ih, latestFailure, latestFailure,
        failures_concat, List.getLast?_append]
      cases (after c events).failedAt? event <;> rfl

/-- A circuit leaves the closed state by a failure. -/
theorem Step.failed {event : Event} {next : Overlap × List Metric} (step : Step c o event next)
    (failed : o.breaker.state ≠ .closed → o.breaker.lastFailure ≠ none)
    (unclosed : next.1.breaker.state ≠ .closed) : next.1.breaker.lastFailure ≠ none := by
  cases step with
  | denied | strayFinish | strayDrop => exact failed unclosed
  | begun entry =>
      rw [lastFailure_of_entry entry]
      exact failed (unclosed_of_entry entry unclosed)
  | replaced entry =>
      rw [Breaker.release_state] at unclosed
      rw [Breaker.release_lastFailure, lastFailure_of_entry entry]
      exact failed (unclosed_of_entry entry unclosed)
  | dropped =>
      rw [Breaker.release_state] at unclosed
      rw [Breaker.release_lastFailure]
      exact failed unclosed
  | ended held outcome =>
      cases outcome with
      | suffered | tripped | lateFailure | relapsed => exact Option.some_ne_none _
      | cleared closed => exact absurd closed unclosed
      | recovered => exact absurd rfl unclosed
      | lateSuccess | counted => simpa using failed (by simpa using unclosed)

/-- A circuit that is not closed has recorded a failure. -/
theorem failed_after (c : Config) (events : List Event)
    (unclosed : (after c events).breaker.state ≠ .closed) :
    ∃ failure, latestFailure c events = some failure := by
  rw [← Option.ne_none_iff_exists', ← lastFailure_after]
  induction events using List.reverseRecOn with
  | nil => exact absurd rfl unclosed
  | append_singleton events event ih =>
      rw [after_concat] at unclosed ⊢
      exact (step_spec c _ event).failed ih unclosed

/-! ## Waiting -/

/-- A call at `now` comes less than the cooldown after the latest failure. -/
def Early (c : Config) (events : List Event) (now : Instant) : Prop :=
  ∃ failure, latestFailure c events = some failure ∧ now < failure + c.cooldown.nanos

/-- A stretch after `events` in which every call comes too early. -/
inductive Quiet (c : Config) (events : List Event) : List Event → Prop where
  | nil : Quiet c events []
  | call {more : List Event} (call : Nat) {now : Instant} (quiet : Quiet c events more)
      (early : Early c (events ++ more) now) : Quiet c events (more ++ [.start call now])
  | ended {more : List Event} {event : Event} (quiet : Quiet c events more)
      (ended : event.ended? ≠ none) : Quiet c events (more ++ [event])

/-- With a clock that does not go back an open circuit has cooled when the cooldown has
passed since the latest failure. -/
theorem cooled_after_iff {call failure : Nat} {now : Instant}
    (ordered : Event.Ordered (events ++ [.start call now]))
    (latest : latestFailure c events = some failure) :
    (after c events).breaker.cooled c now = true ↔ failure + c.cooldown.nanos ≤ now := by
  have past : failure ≤ (now : Nat) :=
    le_of_mem_failures ordered failure (List.mem_of_getLast? latest)
  have kept := lastFailure_after c events
  rw [latest] at kept
  rw [Breaker.cooled, kept, decide_eq_true_iff, Instant.since]
  omega

theorem start_of_early {call failure : Nat} {now : Instant}
    (opened : (after c events).breaker.state = .opened)
    (ordered : Event.Ordered (events ++ [.start call now]))
    (latest : latestFailure c events = some failure)
    (early : now < failure + c.cooldown.nanos) :
    (after c events).start c call now =
      (false, after c events, [.call .opened .rejected]) := by
  have hot : ¬ (after c events).breaker.cooled c now = true := fun cool =>
    absurd ((cooled_after_iff ordered latest).mp cool) (Nat.not_le.mpr early)
  have answer := Breaker.enter_of_opened c now opened
  rw [if_neg hot] at answer
  simp only [start, answer]

/-- The end of a call does not take a circuit out of the open state, and begins none. -/
theorem opened_of_ended {event : Event} (opened : o.breaker.state = .opened)
    (ended : event.ended? ≠ none) : (o.step c event).1.breaker.state = .opened := by
  by_contra moved
  obtain ⟨-, call, now, rfl, -⟩ := start_of_leaving_opened opened moved
  exact ended rfl

/-- While every call comes too early the circuit stays open, and no call begins. -/
theorem Quiet.opened (quiet : Quiet c events more) (ordered : Event.Ordered (events ++ more))
    (opened : (after c events).breaker.state = .opened) :
    (after c (events ++ more)).breaker.state = .opened ∧
      (after c (events ++ more)).pending.Sublist (after c events).pending := by
  -- The latest failure may move at every end of a call, so each call is measured against the
  -- failures of the events before it.
  induction quiet with
  | nil =>
      rw [List.append_nil]
      exact ⟨opened, List.Sublist.refl _⟩
  | @call more call now quiet early ih =>
      rw [← List.append_assoc] at ordered ⊢
      obtain ⟨still, fewer⟩ := ih ordered.of_append
      obtain ⟨failure, latest, before⟩ := early
      have turnedAway := start_of_early still ordered latest before
      have stepped : ((after c (events ++ more)).step c (.start call now)).1 =
          after c (events ++ more) := step_of_denied (by rw [turnedAway])
      rw [after_concat, stepped]
      exact ⟨still, fewer⟩
  | @ended more event quiet ended ih =>
      rw [← List.append_assoc] at ordered ⊢
      obtain ⟨still, fewer⟩ := ih ordered.of_append
      obtain ⟨call, here⟩ := Option.ne_none_iff_exists'.mp ended
      rw [after_concat]
      refine ⟨opened_of_ended still ended, ?_⟩
      rw [pending_step_of_ended here]
      exact (without_sublist _ call).trans fewer

/-- **An open circuit fails fast until it has cooled.**  Take any history, with a clock that
does not go back, that leaves the circuit open, and the latest failure any call has
recorded.  A call that arrives less than the cooldown after it is turned away and changes
nothing; one that arrives later, or just then, is let through as a probe, and the circuit is
half open with no success and this one probe counted.  As long as every call that arrives
comes too early for the failures recorded by then, the circuit stays open and no call
begins. -/
theorem fail_fast (c : Config) (events : List Event) (ordered : Event.Ordered events)
    (opened : (after c events).breaker.state = .opened) :
    ∃ failure, latestFailure c events = some failure ∧
      (∀ earlier ∈ failures c events, earlier ≤ failure) ∧
      (∀ call now, Event.Ordered (events ++ [.start call now]) →
        (now < failure + c.cooldown.nanos →
          (after c events).start c call now =
            (false, after c events, [.call .opened .rejected])) ∧
        (failure + c.cooldown.nanos ≤ now →
          ((after c events).start c call now).1 = true ∧
          (after c events).breaker.enter c now =
            ⟨some ⟨true⟩,
              { (after c events).breaker with state := .halfOpen, successes := 0, inFlight := 1 },
              [.transition .opened .halfOpen]⟩ ∧
          ((after c events).permit? call = none →
            (after c (events ++ [.start call now])).breaker =
              { (after c events).breaker with
                state := .halfOpen, successes := 0, inFlight := 1 }))) ∧
      (∀ more, Event.Ordered (events ++ more) → Quiet c events more →
        (after c (events ++ more)).breaker.state = .opened ∧
        (after c (events ++ more)).pending.Sublist (after c events).pending) := by
  obtain ⟨failure, latest⟩ := failed_after c events (by rw [opened]; exact State.noConfusion)
  refine ⟨failure, latest, le_latestFailure ordered latest, fun call now arrives => ⟨?_, ?_⟩,
    fun more ordered quiet => quiet.opened ordered opened⟩
  · exact start_of_early opened arrives latest
  · intro due
    have answer := Breaker.enter_of_opened c now opened
    rw [if_pos ((cooled_after_iff arrives latest).mpr due)] at answer
    refine ⟨by rw [start_eq_isSome, answer]; rfl, answer, fun free => ?_⟩
    simp only [after_concat, step, start, answer, free]

/-- Two calls begin while the circuit is closed.  The failure of the first one opens it, and
the second one fails twenty seconds later. -/
def lateFailure : List Event :=
  [.start 1 0, .start 2 0, .finish 1 false 0, .finish 2 false 20000000000]

/-- The cooldown of thirty seconds is over thirty seconds after the second failure. -/
theorem fail_fast_lateFailure :
    Event.Ordered lateFailure ∧ (after strict lateFailure).breaker.state = .opened ∧
      (after strict lateFailure).start strict 3 49999999999 =
        (false, after strict lateFailure, [.call .opened .rejected]) ∧
      ((after strict lateFailure).start strict 3 50000000000).1 = true ∧
      (after strict (lateFailure ++ [.start 3 50000000000])).breaker =
        { (after strict lateFailure).breaker with
          state := .halfOpen, successes := 0, inFlight := 1 } := by
  have ordered : Event.Ordered lateFailure := by decide
  have opened : (after strict lateFailure).breaker.state = .opened := by decide
  obtain ⟨failure, latest, -, answers, -⟩ := fail_fast strict lateFailure ordered opened
  have second : latestFailure strict lateFailure = some 20000000000 := by decide
  obtain rfl : 20000000000 = failure := Option.some.inj (second.symm.trans latest)
  have early := (answers 3 49999999999 (by decide)).1 (by decide)
  obtain ⟨begun, -, left⟩ := (answers 3 50000000000 (by decide)).2 (by decide)
  exact ⟨ordered, opened, early, begun, left (by decide)⟩

end Overlap

end Courier.Circuit
