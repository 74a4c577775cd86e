/-
# Courier.Proofs.Circuit.Bounds -- the counters of a breaker keep below their limits

A breaker counts failures, successes and probes, and each counter goes up and starts over
on several ways: failures go on being counted while the circuit is open, successes that did
not suffice are still there after a relapse, and a probe counted in one half-open period may
be given back in the next.  `Breaker.Bounded` is what all of this keeps: every counter stays
below the limit at which the circuit moves, and no success is counted while it is closed.
Giving a place back (`Bounded.release`), asking for leave (`Entry.bounded`) and recording an
outcome (`Recorded.bounded`) keep it, so every event does (`Step.bounded`), and so does every
history (`bounded_after`).

The limits are 32-bit numbers (`Config.failureLimit_lt` and its companions), and a counter
that goes up is at most its limit afterwards.  So 32 bits are enough for every number that a
breaker ever counts up to, also when its settings are zero or as large as they can be
(`counters_bounded`).
-/
import Courier.Proofs.Circuit.Cooldown

namespace Courier.Circuit

set_option autoImplicit false

/-! ## The limits -/

namespace Config

variable (c : Config)

theorem max_one_toNat_lt (n : UInt32) : max 1 n.toNat < UInt32.size := by
  have bounded : n.toNat < UInt32.size := UInt32.toNat_lt n
  have one : 1 < UInt32.size := by decide
  exact Nat.max_lt.mpr ⟨one, bounded⟩

theorem failureLimit_lt : c.failureLimit < UInt32.size := max_one_toNat_lt c.failureThreshold

theorem successLimit_lt : c.successLimit < UInt32.size := max_one_toNat_lt c.successThreshold

theorem probeLimit_lt : c.probeLimit < UInt32.size := max_one_toNat_lt c.probes

end Config

/-! ## One operation -/

namespace Breaker

/-- Every counter of a breaker is below the limit at which the circuit moves. -/
structure Bounded (c : Config) (b : Breaker) : Prop where
  failures : b.failures < c.failureLimit
  successes : b.successes < c.successLimit
  inFlight : b.inFlight ≤ c.probeLimit
  /-- Successes count only since the circuit became half open, and closing it forgets them. -/
  cleared : b.state = .closed → b.successes = 0

variable {c : Config} {now : Instant} {b : Breaker}

theorem bounded_initial (c : Config) : initial.Bounded c where
  failures := c.failureLimit_pos
  successes := c.successLimit_pos
  inFlight := Nat.zero_le _
  cleared _ := rfl

theorem Bounded.release (bounded : b.Bounded c) (p : Permit) : (b.release p).Bounded c := by
  constructor
  · rw [release_failures]
    exact bounded.failures
  · rw [release_successes]
    exact bounded.successes
  · rw [release_inFlight]
    exact Nat.le_trans (Nat.sub_le ..) bounded.inFlight
  · rw [release_state, release_successes]
    exact bounded.cleared

theorem Entry.bounded {admission : Admission} (entry : Entry c now b admission)
    (bounded : b.Bounded c) : admission.breaker.Bounded c := by
  cases entry with
  | passed | cooling | full => exact bounded
  | reopened =>
      exact ⟨bounded.failures, c.successLimit_pos, c.probeLimit_pos, fun closed => nomatch closed⟩
  | probe half room =>
      refine ⟨bounded.failures, bounded.successes, room, fun closed => ?_⟩
      rw [half] at closed
      cases closed

theorem Recorded.bounded {success : Bool} {recorded : Breaker × List Metric}
    (outcome : Recorded c now b success recorded) (bounded : b.Bounded c) :
    recorded.1.Bounded c := by
  obtain ⟨failures, successes, inFlight, cleared⟩ := bounded
  have none : 0 < c.failureLimit := c.failureLimit_pos
  cases outcome with
  | cleared => exact ⟨none, successes, inFlight, cleared⟩
  | lateSuccess => exact ⟨failures, successes, inFlight, cleared⟩
  | counted half few =>
      have more : b.successes + 1 < c.successLimit := Nat.lt_of_lt_of_le few (Nat.le_max_right ..)
      refine ⟨failures, more, inFlight, fun closed => ?_⟩
      rw [half] at closed
      cases closed
  | recovered => exact ⟨none, c.successLimit_pos, inFlight, fun _ => rfl⟩
  | suffered unprobed few =>
      -- open or closed alike: the count starts over at the limit in both states
      have more : b.failures + 1 < c.failureLimit := Nat.lt_of_lt_of_le few (Nat.le_max_right ..)
      exact ⟨more, successes, inFlight, cleared⟩
  | tripped | relapsed => exact ⟨none, successes, inFlight, fun closed => nomatch closed⟩
  | lateFailure => exact ⟨none, successes, inFlight, cleared⟩

end Breaker

/-! ## Events and histories -/

namespace Overlap

theorem Step.bounded {c : Config} {o : Overlap} {event : Event} {next : Overlap × List Metric}
    (step : Step c o event next) (bounded : o.breaker.Bounded c) :
    next.1.breaker.Bounded c := by
  cases step with
  | denied | strayFinish | strayDrop => exact bounded
  | begun entry => exact entry.bounded bounded
  | replaced entry => exact (entry.bounded bounded).release _
  | ended held outcome => exact outcome.bounded (bounded.release _)
  | dropped => exact bounded.release _

theorem bounded_after (c : Config) (events : List Event) :
    (after c events).breaker.Bounded c := by
  induction events using List.reverseRecOn with
  | nil => exact Breaker.bounded_initial c
  | append_singleton events event ih =>
      rw [after_concat]
      exact (step_spec c _ event).bounded ih

/-- **The counters of a breaker keep below their limits.**  After any history, for any
settings: fewer failures and successes are counted than would move the circuit, no more
probes than it lets through at once, and no success while it is closed; a circuit that is
not closed knows when it last failed.  One more failure, one more success, and the probe that
the next call may be, still fit 32 bits, so no counter ever overflows. -/
theorem counters_bounded (c : Config) (events : List Event) :
    (after c events).breaker.failures < max 1 c.failureThreshold.toNat ∧
    (after c events).breaker.successes < max 1 c.successThreshold.toNat ∧
    (after c events).breaker.inFlight ≤ max 1 c.probes.toNat ∧
    ((after c events).breaker.state = .closed → (after c events).breaker.successes = 0) ∧
    ((after c events).breaker.state ≠ .closed → (after c events).breaker.lastFailure ≠ none) ∧
    (after c events).breaker.failures + 1 < UInt32.size ∧
    (after c events).breaker.successes + 1 < UInt32.size ∧
    ∀ now, ((after c events).breaker.enter c now).breaker.inFlight < UInt32.size := by
  have bounded := bounded_after c events
  refine ⟨bounded.failures, bounded.successes, bounded.inFlight, bounded.cleared, ?_, ?_, ?_, ?_⟩
  · intro unclosed
    obtain ⟨failure, latest⟩ := failed_after c events unclosed
    rw [lastFailure_after, latest]
    exact Option.some_ne_none failure
  · exact Nat.lt_of_le_of_lt bounded.failures c.failureLimit_lt
  · exact Nat.lt_of_le_of_lt bounded.successes c.successLimit_lt
  · intro now
    have entered := (Breaker.enter_entry c now _).bounded bounded
    exact Nat.lt_of_le_of_lt entered.inFlight c.probeLimit_lt

/-- With every setting at zero the second failure of overlapping calls finds the count at
zero again. -/
example :
    (after ⟨0, 0, .ofNanos 0, 0⟩
      [.start 1 0, .start 2 0, .finish 1 false 0, .finish 2 false 0]).breaker.failures = 0 := by
  decide

end Overlap

end Courier.Circuit
