/-
# Courier.Proofs.Circuit.Slots -- every probe gives its place back

A half-open circuit turns calls away when it counts as many probes as its limit, so a
probe that ended without giving its place back would shut the circuit for good.  The
counter goes up with an admission and down with a success, a failure and a drop; it stops
at zero and starts over with every half-open period, and is therefore not always the number
of probes that are pending.  It is never more than that (`inFlight_le_pendingProbes`), which
one event keeps (`Step.inFlight_le_pendingProbes`): an admission makes at least as many
probes pending as it counts, and the end of a pending probe gives a place back whichever
way it ends.

Ending every pending call, in any order and in any way (`EndsAll`), leaves no call pending
(`pending_run_endsAll`), hence no probe counted, and a circuit that is half open then lets
the next call through (`no_probe_leaked`).
-/
import Courier.Proofs.Circuit.Probes

namespace Courier.Circuit

set_option autoImplicit false

/-- The call that an event ends, if it is the end of a call. -/
def Event.ended? : Event → Option Nat
  | .start _ _ => none
  | .finish call _ _ => some call
  | .drop call => some call

namespace Overlap

variable {c : Config} {o : Overlap}

/-! ## Counted probes are pending -/

/-- An admission counts no more than the probe it lets through. -/
theorem inFlight_le_of_entry {now : Instant} {b breaker : Breaker} {permit : Permit}
    {metrics : List Metric} (entry : Breaker.Entry c now b ⟨some permit, breaker, metrics⟩) :
    breaker.inFlight ≤ b.inFlight + permit.probe.toNat := by
  cases entry with
  | passed => exact Nat.le_refl _
  | reopened => exact Nat.le_add_left 1 b.inFlight
  | probe => exact Nat.le_refl _

theorem pendingProbes_cons (b : Breaker) (entry : Nat × Permit) (rest : List (Nat × Permit)) :
    (⟨b, entry :: rest⟩ : Overlap).pendingProbes =
      rest.countP (·.2.probe) + entry.2.probe.toNat := by
  rw [pendingProbes, List.countP_cons]
  cases entry.2.probe <;> rfl

/-- One event keeps every counted probe pending. -/
theorem Step.inFlight_le_pendingProbes {event : Event} {next : Overlap × List Metric}
    (step : Step c o event next) (distinct : o.Distinct)
    (covered : o.breaker.inFlight ≤ o.pendingProbes) :
    next.1.breaker.inFlight ≤ next.1.pendingProbes := by
  cases step with
  | denied | strayFinish | strayDrop => exact covered
  | begun entry free =>
      have counted := inFlight_le_of_entry entry
      rw [pendingProbes_cons, without_of_free free]
      exact Nat.le_trans counted (Nat.add_le_add_right covered _)
  | @replaced call now permit older breaker metrics entry held =>
      -- The older call of that name has its place back only after the new one is counted.
      have counted := inFlight_le_of_entry entry
      have before := pendingProbes_of_held distinct held
      rw [pendingProbes_cons]
      show (breaker.release older).inFlight ≤
        (o.without call).countP (·.2.probe) + permit.probe.toNat
      rw [Breaker.release_inFlight]
      omega
  | @ended call success now permit recorded held outcome =>
      have before := pendingProbes_of_held distinct held
      have counter := outcome.inFlight_eq
      rw [Breaker.release_inFlight] at counter
      show recorded.1.inFlight ≤ (o.without call).countP (·.2.probe)
      omega
  | @dropped call permit held =>
      have before := pendingProbes_of_held distinct held
      show (o.breaker.release permit).inFlight ≤ (o.without call).countP (·.2.probe)
      rw [Breaker.release_inFlight]
      omega

/-- After any history every counted probe is pending. -/
theorem inFlight_le_pendingProbes (c : Config) (events : List Event) :
    (after c events).breaker.inFlight ≤ (after c events).pendingProbes := by
  induction events using List.reverseRecOn with
  | nil => exact Nat.le_refl 0
  | append_singleton events event ih =>
      rw [after_concat]
      exact (step_spec c _ event).inFlight_le_pendingProbes (distinct_after c events) ih

/-! ## Calls turned away by a half-open circuit -/

theorem start_eq_isSome (c : Config) (o : Overlap) (call : Nat) (now : Instant) :
    (o.start c call now).1 = (o.breaker.enter c now).permit.isSome := by
  unfold start
  cases answer : (o.breaker.enter c now).permit with
  | none => simp only [answer, Option.isSome_none]
  | some permit => simp only [answer, Option.isSome_some]

/-- With no probe counted the next call is let through. -/
theorem enter_of_uncounted (half : o.breaker.state = .halfOpen) (none : o.breaker.inFlight = 0)
    (now : Instant) : (o.breaker.enter c now).permit = some ⟨true⟩ := by
  rcases Breaker.enter_of_half c now half with probe | ⟨-, spent⟩
  · exact probe
  · have limit := c.probeLimit_pos
    omega

/-! ## Ending calls -/

/-- Ends of calls, among them one of every pending call. -/
structure EndsAll (o : Overlap) (ends : List Event) : Prop where
  ended : ∀ event ∈ ends, event.ended? ≠ none
  all : ∀ entry ∈ o.pending, some entry.1 ∈ ends.map Event.ended?

theorem pending_step_of_ended {event : Event} {call : Nat} (ended : event.ended? = some call) :
    (o.step c event).1.pending = o.without call := by
  have spec := step_spec c o event
  generalize o.step c event = next at spec ⊢
  cases spec with
  | denied | begun | replaced => cases ended
  | ended | dropped =>
      cases ended
      rfl
  | strayFinish gone | strayDrop gone =>
      cases ended
      exact (without_of_free gone).symm

/-- Ends of calls take away the calls they are about and leave the others. -/
theorem pending_run_of_ended (c : Config) (o : Overlap) (ends : List Event)
    (ended : ∀ event ∈ ends, event.ended? ≠ none) :
    (o.run c ends).1.pending =
      o.pending.filter fun entry => decide (some entry.1 ∉ ends.map Event.ended?) := by
  induction ends generalizing o with
  | nil => simp [run]
  | cons event ends ih =>
      obtain ⟨call, here⟩ := Option.ne_none_iff_exists'.mp (ended event List.mem_cons_self)
      have later : ∀ event ∈ ends, event.ended? ≠ none := fun event member =>
        ended event (List.mem_cons_of_mem _ member)
      change ((o.step c event).1.run c ends).1.pending = _
      rw [ih _ later, pending_step_of_ended here, without, List.filter_filter]
      refine List.filter_congr fun entry _ => ?_
      rw [List.map_cons, here]
      by_cases same : entry.1 = call <;> simp [same]

theorem pending_run_endsAll (c : Config) {ends : List Event} (endsAll : o.EndsAll ends) :
    (o.run c ends).1.pending = [] := by
  rw [pending_run_of_ended c o ends endsAll.ended, List.filter_eq_nil_iff]
  intro entry member kept
  exact of_decide_eq_true kept (endsAll.all entry member)

/-- A drop touches the number of probes counted as out, and nothing else. -/
theorem breaker_step_drop (c : Config) (o : Overlap) (call : Nat) :
    (o.step c (.drop call)).1.breaker =
      { o.breaker with
        inFlight := o.breaker.inFlight - (o.permit? call).elim 0 (·.probe.toNat) } := by
  have spec := step_spec c o (.drop call)
  generalize o.step c (.drop call) = next at spec ⊢
  cases spec with
  | @dropped call permit held =>
      rw [held]
      change Breaker.release permit o.breaker = _
      unfold Breaker.release
      cases probe : permit.probe <;> simp [probe]
  | strayDrop gone => rw [gone]; rfl

/-- **No probe keeps its place.**  After any history the breaker counts no more probes than
are pending; so a half-open circuit turns a call away only while as many probes as its limit
are pending, and with no call pending it counts no probe and lets the next call through as
one.  Ending the pending calls, in any order and in any way, always gets there.  A drop
changes nothing of a breaker but the count. -/
theorem no_probe_leaked (c : Config) (events : List Event) :
    (after c events).breaker.inFlight ≤ (after c events).pendingProbes ∧
    (∀ call now, (after c events).breaker.state = .halfOpen →
      ((after c events).start c call now).1 = false →
      c.probeLimit ≤ (after c events).pendingProbes) ∧
    ((after c events).pending = [] →
      (after c events).breaker.inFlight = 0 ∧
      ((after c events).breaker.state = .halfOpen → ∀ call now,
        ((after c events).start c call now).1 = true ∧
        ((after c events).breaker.enter c now).permit = some ⟨true⟩)) ∧
    (∀ ends, (after c events).EndsAll ends → (after c (events ++ ends)).pending = []) ∧
    (∀ call, ((after c events).step c (.drop call)).1.breaker =
      { (after c events).breaker with
        inFlight := (after c events).breaker.inFlight -
          ((after c events).permit? call).elim 0 (·.probe.toNat) }) := by
  have covered := inFlight_le_pendingProbes c events
  refine ⟨covered, ?_, ?_, ?_, breaker_step_drop c _⟩
  · intro call now half denied
    rw [start_eq_isSome] at denied
    rcases Breaker.enter_of_half c now half with probe | ⟨-, spent⟩
    · simp [probe] at denied
    · exact Nat.le_trans spent covered
  · intro nothing
    have none : (after c events).breaker.inFlight = 0 := by
      rw [pendingProbes, nothing, List.countP_nil] at covered
      exact Nat.le_zero.mp covered
    refine ⟨none, fun half call now => ?_⟩
    have probe := enter_of_uncounted (c := c) half none now
    exact ⟨by rw [start_eq_isSome, probe, Option.isSome_some], probe⟩
  · intro ends endsAll
    rw [after_append]
    exact pending_run_endsAll c endsAll

/-- A failure opens the circuit, and half a minute later call 2 is let through as a probe. -/
def onProbe : List Event := [.start 1 0, .finish 1 false 0, .start 2 30000000000]

/-- While call 2 is pending the next call is turned away; once it is dropped, that call takes
its place. -/
theorem no_probe_leaked_onProbe :
    ((after strict onProbe).start strict 3 30000000000).1 = false ∧
      strict.probeLimit ≤ (after strict onProbe).pendingProbes ∧
      (after strict (onProbe ++ [.drop 2])).pending = [] ∧
      (after strict (onProbe ++ [.drop 2])).breaker.state = .halfOpen ∧
      ((after strict (onProbe ++ [.drop 2])).start strict 3 30000000000).1 = true := by
  have denied : ((after strict onProbe).start strict 3 30000000000).1 = false := by decide
  have half : (after strict (onProbe ++ [.drop 2])).breaker.state = .halfOpen := by decide
  have endsAll : (after strict onProbe).EndsAll [.drop 2] := ⟨by decide, by decide⟩
  obtain ⟨-, refused, -, emptied, -⟩ := no_probe_leaked strict onProbe
  obtain ⟨-, -, free, -, -⟩ := no_probe_leaked strict (onProbe ++ [.drop 2])
  have nothing := emptied _ endsAll
  exact ⟨denied, refused 3 _ (by decide) denied, nothing, half,
    ((free nothing).2 half 3 30000000000).1⟩

end Overlap

end Courier.Circuit
