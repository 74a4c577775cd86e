/-
# Courier.Proofs.Circuit.Recovery -- whose successes close a half-open circuit

A half-open circuit counts every success that is recorded while it is half open.  Most
of them are its probes', but a call that was already pending when the period began
counts as well when it ends: one that was let through while the circuit was closed, or a
probe of an earlier period.

`Recovery` watches a half-open period from the event that begins it and tells the two
apart: `own` are the successes of probes that began in the period, `late` those of calls
carried into it.  Together they are the successes recorded since the period began
(`Period.own_add_late`), and there are no more late ones than calls carried into it
(`late_add_older_le`).  So

* a circuit closes with `own + late` exactly the limit, and its own probes' successes
  may be fewer by as many as there were calls carried into the period;
* the period needs the full number of its own probes' successes, however it goes on,
  exactly when it begins with no other call pending (`recovery_successes`).

`lateCalls` is a history that closes a circuit without a single success of a probe.
-/
import Courier.Proofs.Circuit.Outcomes
import Courier.Proofs.Circuit.Probes

namespace Courier.Circuit.Overlap

set_option autoImplicit false

variable {c : Config} {o : Overlap}

/-! ## Watching a half-open period -/

/-- The call that an event lets through as a probe. -/
def probeBegun? (c : Config) (o : Overlap) : Event → Option Nat
  | .start call now => ((o.breaker.enter c now).permit.filter (·.probe)).map fun _ => call
  | _ => none

/-- The pending call that an event ends with a success. -/
def succeeded? (o : Overlap) : Event → Option Nat
  | .finish call true _ => (o.permit? call).map fun _ => call
  | _ => none

/-- What has been seen of a half-open period. -/
structure Recovery where
  situation : Overlap
  /-- Calls let through as probes since the period began. -/
  begun : List Nat
  /-- Successes of such calls. -/
  own : Nat
  /-- Successes of calls that were pending before the period. -/
  late : Nat

namespace Recovery

/-- One more event is seen. -/
def watch (c : Config) (r : Recovery) (event : Event) : Recovery where
  situation := (r.situation.step c event).1
  begun := (r.situation.probeBegun? c event).toList ++ r.begun
  own := r.own + (r.situation.succeeded? event).toList.countP fun call => decide (call ∈ r.begun)
  late := r.late +
    (r.situation.succeeded? event).toList.countP fun call => !decide (call ∈ r.begun)

/-- Pending calls that did not begin in the period. -/
def older (r : Recovery) : Nat := r.situation.pending.countP fun entry => decide (entry.1 ∉ r.begun)

end Recovery

/-- A period that begins after `earlier`, watched through `events`. -/
def recovery (c : Config) (earlier events : List Event) : Recovery :=
  events.foldl (Recovery.watch c) ⟨after c earlier, [], 0, 0⟩

/-- Calls carried into the period that `event` begins after `earlier`. -/
def carried (c : Config) (earlier : List Event) (event : Event) : Nat :=
  (recovery c earlier [event]).older

theorem recovery_concat (earlier events : List Event) (event : Event) :
    recovery c earlier (events ++ [event]) = (recovery c earlier events).watch c event := by
  rw [recovery, List.foldl_append]
  rfl

theorem recovery_situation (c : Config) (earlier events : List Event) :
    (recovery c earlier events).situation = after c (earlier ++ events) := by
  induction events using List.reverseRecOn with
  | nil => rw [List.append_nil]; rfl
  | append_singleton events event ih =>
      rw [recovery_concat, ← List.append_assoc, after_concat, ← ih]
      rfl

/-! ## Successes -/

theorem count_recorded (o : Overlap) (event : Event) :
    (o.recorded? event).toList.count true = (o.succeeded? event).toList.length := by
  cases event with
  | start call now => rfl
  | drop call => rfl
  | finish call success now =>
      cases success <;> cases held : o.permit? call <;> simp [recorded?, succeeded?, held]

theorem Recovery.own_add_late_watch (r : Recovery) (event : Event) :
    (r.watch c event).own + (r.watch c event).late =
      r.own + r.late + (r.situation.succeeded? event).toList.length := by
  have split := List.length_eq_countP_add_countP (fun call => decide (call ∈ r.begun))
    (l := (r.situation.succeeded? event).toList)
  simp only [watch, split, Bool.not_eq_true, Bool.decide_eq_false]
  omega

theorem succeeded?_of_gone {call : Nat} {success : Bool} {now : Instant}
    (gone : o.permit? call = none) : o.succeeded? (.finish call success now) = none := by
  cases success with
  | true => rw [succeeded?, gone, Option.map_none]
  | false => rfl

theorem Recovery.late_watch_of_none {r : Recovery} {event : Event}
    (none : r.situation.succeeded? event = none) : (r.watch c event).late = r.late := by
  simp [watch, none]

/-- Successes are never taken back. -/
theorem recovery_le_append (c : Config) (earlier events more : List Event) :
    (recovery c earlier events).own ≤ (recovery c earlier (events ++ more)).own ∧
      (recovery c earlier events).late ≤ (recovery c earlier (events ++ more)).late := by
  induction more using List.reverseRecOn with
  | nil => rw [List.append_nil]; exact ⟨Nat.le_refl _, Nat.le_refl _⟩
  | append_singleton more event ih =>
      rw [← List.append_assoc, recovery_concat]
      exact ⟨Nat.le_trans ih.1 (Nat.le_add_right _ _), Nat.le_trans ih.2 (Nat.le_add_right _ _)⟩

/-- A period begins with no outcome recorded. -/
theorem Period.outcomesSinceMove_eq_nil {earlier more : List Event} {event : Event}
    (period : Period c earlier event more) : outcomesSinceMove c (earlier ++ [event]) = [] := by
  rw [outcomesSinceMove_concat, if_neg (by rw [period.start.half, period.opened]; decide)]

theorem Period.own_add_late {earlier more : List Event} {event : Event}
    (period : Period c earlier event more) :
    (recovery c earlier (event :: more)).own + (recovery c earlier (event :: more)).late =
      (outcomesSinceMove c (earlier ++ event :: more)).count true := by
  induction more using List.reverseRecOn with
  | nil =>
      -- The event that begins the period is the beginning of a call.
      have half := period.half
      rw [after_concat] at half
      obtain ⟨-, call, now, rfl, -⟩ :=
        start_of_leaving_opened period.opened (by rw [half]; exact State.noConfusion)
      rw [period.outcomesSinceMove_eq_nil]
      rfl
  | append_singleton more last ih =>
      have before := period.shorten.half
      have half := period.half
      have split : earlier ++ event :: (more ++ [last]) = (earlier ++ event :: more) ++ [last] := by
        rw [List.append_assoc, List.cons_append]
      rw [split] at half
      rw [← List.cons_append, recovery_concat, Recovery.own_add_late_watch, ih period.shorten,
        recovery_situation, ← count_recorded, List.cons_append, split, outcomesSinceMove_concat,
        if_pos (half.trans before.symm), List.count_append]

/-! ## Calls carried into the period -/

/-- In a half-open circuit every call that is let through is a probe. -/
theorem probeBegun?_of_entry {call : Nat} {now : Instant} {permit : Permit} {breaker : Breaker}
    {metrics : List Metric} (half : o.breaker.state = .halfOpen)
    (entry : Breaker.Entry c now o.breaker ⟨some permit, breaker, metrics⟩) :
    o.probeBegun? c (.start call now) = some call := by
  have answer := entry.eq_enter
  cases entry with
  | passed closed => simp [half] at closed
  | reopened opened => simp [half] at opened
  | probe =>
      rw [probeBegun?, answer]
      rfl

theorem Recovery.mem_begun_of_entry (r : Recovery) (call : Nat) {now : Instant} {permit : Permit}
    {breaker : Breaker} {metrics : List Metric} (half : r.situation.breaker.state = .halfOpen)
    (entry : Breaker.Entry c now r.situation.breaker ⟨some permit, breaker, metrics⟩) :
    call ∈ (r.watch c (.start call now)).begun := by
  simp [watch, probeBegun?_of_entry half entry]

/-- Fewer pending calls, and more that began in the period, leave fewer older ones. -/
theorem countP_older_le {pending fewer : List (Nat × Permit)} {begun more : List Nat}
    (part : fewer.Sublist pending) (grown : ∀ call ∈ begun, call ∈ more) :
    fewer.countP (fun entry => decide (entry.1 ∉ more)) ≤
      pending.countP fun entry => decide (entry.1 ∉ begun) := by
  refine Nat.le_trans (List.countP_mono_left fun entry _ outside => ?_) part.countP_le
  have outside := of_decide_eq_true outside
  exact decide_eq_true fun inside => outside (grown _ inside)

/-- A call that begins in the period is not an older one, whichever call it replaces. -/
theorem countP_older_begun_le (o : Overlap) {call : Nat} (permit : Permit) {begun more : List Nat}
    (here : call ∈ more) (grown : ∀ call ∈ begun, call ∈ more) :
    ((call, permit) :: o.without call).countP (fun entry => decide (entry.1 ∉ more)) ≤
      o.pending.countP fun entry => decide (entry.1 ∉ begun) := by
  rw [List.countP_cons_of_neg (by simpa using here)]
  exact countP_older_le (o.without_sublist call) grown

/-- An event turns at most as many older calls into late successes as it ends. -/
theorem Recovery.late_add_older_le (r : Recovery) (event : Event)
    (distinct : r.situation.Distinct) (half : r.situation.breaker.state = .halfOpen) :
    (r.watch c event).late + (r.watch c event).older ≤ r.late + r.older := by
  have grown : ∀ call ∈ r.begun, call ∈ (r.watch c event).begun := fun call member =>
    List.mem_append_right _ member
  have spec := step_spec c r.situation event
  have next : (r.watch c event).situation = (r.situation.step c event).1 := rfl
  rw [older, next]
  generalize r.situation.step c event = stepped at spec ⊢
  cases spec with
  | denied => exact Nat.add_le_add_left (countP_older_le (List.Sublist.refl _) grown) _
  | @begun call now permit breaker metrics entry =>
      have here := r.mem_begun_of_entry call half entry
      exact Nat.add_le_add_left (countP_older_begun_le r.situation permit here grown) _
  | @replaced call now permit older breaker metrics entry =>
      have here := r.mem_begun_of_entry call half entry
      exact Nat.add_le_add_left (countP_older_begun_le r.situation permit here grown) _
  | @ended call success now permit recorded held outcome =>
      cases success with
      | false =>
          exact Nat.add_le_add_left (countP_older_le (r.situation.without_sublist call) grown) _
      | true =>
          -- The call leaves the older ones just when its success is a late one.
          have count := countP_of_held distinct held fun entry => decide (entry.1 ∉ r.begun)
          simp only [older, watch, probeBegun?, succeeded?, held, Option.map_some,
            Option.toList_some, Option.toList_none, List.nil_append,
            List.countP_singleton] at count ⊢
          by_cases own : call ∈ r.begun <;> simp [own] at count ⊢ <;> omega
  | @dropped call permit held =>
      exact Nat.add_le_add_left (countP_older_le (r.situation.without_sublist call) grown) _
  | strayFinish gone =>
      rw [late_watch_of_none (succeeded?_of_gone gone)]
      exact Nat.add_le_add_left (countP_older_le (List.Sublist.refl _) grown) _
  | strayDrop gone => exact Nat.add_le_add_left (countP_older_le (List.Sublist.refl _) grown) _

namespace Period

variable {earlier more : List Event} {event : Event}

theorem late_add_older_concat_le (period : Period c earlier event more) (last : Event) :
    (recovery c earlier (event :: (more ++ [last]))).late +
        (recovery c earlier (event :: (more ++ [last]))).older ≤
      (recovery c earlier (event :: more)).late + (recovery c earlier (event :: more)).older := by
  have situation := recovery_situation c earlier (event :: more)
  rw [← List.cons_append, recovery_concat]
  refine Recovery.late_add_older_le _ last ?_ ?_
  · rw [situation]; exact distinct_after c _
  · rw [situation]; exact period.half

/-- Throughout a period the late successes and the older calls still pending are no more
than the calls carried into it. -/
theorem late_add_older_le (period : Period c earlier event more) :
    (recovery c earlier (event :: more)).late + (recovery c earlier (event :: more)).older ≤
      carried c earlier event := by
  induction more using List.reverseRecOn with
  | nil =>
      have none := period.own_add_late
      rw [period.outcomesSinceMove_eq_nil, List.count_nil] at none
      rw [carried]
      omega
  | append_singleton more last ih =>
      exact Nat.le_trans (period.shorten.late_add_older_concat_le last) (ih period.shorten)

end Period

/-! ## How a period closes the circuit -/

/-- A half-open period that `last` ends by closing the circuit. -/
structure Recovered (c : Config) (earlier : List Event) (event : Event) (more : List Event)
    (last : Event) : Prop where
  period : Period c earlier event more
  closed : (after c (earlier ++ event :: (more ++ [last]))).breaker.state = .closed

namespace Recovered

variable {earlier more : List Event} {event last : Event}

theorem own_add_late (recovered : Recovered c earlier event more last) :
    (recovery c earlier (event :: (more ++ [last]))).own +
        (recovery c earlier (event :: (more ++ [last]))).late = c.successLimit := by
  have period := recovered.period
  have closed := recovered.closed
  rw [after_period_concat] at closed
  have turn := (step_spec c (after c (earlier ++ event :: more)) last).turn
  obtain ⟨success, enough⟩ :=
    (turn.moves_of_half (faithful_after c _) period.half).2.1.mp closed
  rw [← List.cons_append, recovery_concat, Recovery.own_add_late_watch, period.own_add_late,
    recovery_situation, ← count_recorded, success, Option.toList_some, ← List.count_append]
  exact enough

theorem late_le_carried (recovered : Recovered c earlier event more last) :
    (recovery c earlier (event :: (more ++ [last]))).late ≤ carried c earlier event :=
  calc (recovery c earlier (event :: (more ++ [last]))).late
    _ ≤ (recovery c earlier (event :: (more ++ [last]))).late +
          (recovery c earlier (event :: (more ++ [last]))).older := Nat.le_add_right _ _
    _ ≤ (recovery c earlier (event :: more)).late + (recovery c earlier (event :: more)).older :=
        recovered.period.late_add_older_concat_le last
    _ ≤ carried c earlier event := recovered.period.late_add_older_le

end Recovered

/-! ## Every late success can happen -/

theorem exists_permit_of_mem {entry : Nat × Permit} (member : entry ∈ o.pending) :
    ∃ permit, o.permit? entry.1 = some permit := by
  have found : (o.pending.find? (·.1 == entry.1)).isSome := by
    rw [List.find?_isSome]
    exact ⟨entry, member, beq_self_eq_true _⟩
  obtain ⟨other, lookup⟩ := Option.isSome_iff_exists.mp found
  exact ⟨other.2, by rw [permit?, lookup]; rfl⟩

namespace Period

variable {earlier more : List Event} {event : Event}

/-- A pending call that ends well closes the circuit or leaves it half open. -/
theorem finish {call : Nat} {permit : Permit} (period : Period c earlier event more)
    (held : (after c (earlier ++ event :: more)).permit? call = some permit) :
    Recovered c earlier event more (.finish call true 0) ∨
      Period c earlier event (more ++ [.finish call true 0]) := by
  have turn := (step_spec c (after c (earlier ++ event :: more)) (.finish call true 0)).turn
  have unopened := (turn.moves_of_half (faithful_after c _) period.half).1
  rw [recorded?, held, ← after_period_concat] at unopened
  cases next : (after c (earlier ++ event :: (more ++ [.finish call true 0]))).breaker.state with
  | closed => exact .inl ⟨period, next⟩
  | halfOpen => exact .inr (period.extend next)
  | opened => simp [next] at unopened

/-- A period can go on so that some call is pending. -/
theorem exists_held (period : Period c earlier event more) :
    ∃ part, Period c earlier event (more ++ part) ∧
      ∃ call permit, (after c (earlier ++ event :: (more ++ part))).permit? call = some permit := by
  cases pending : (after c (earlier ++ event :: more)).pending with
  | cons entry rest =>
      have member : entry ∈ (after c (earlier ++ event :: more)).pending := by
        rw [pending]
        exact List.mem_cons_self
      obtain ⟨permit, held⟩ := exists_permit_of_mem member
      exact ⟨[], by rwa [List.append_nil], entry.1, permit, by rwa [List.append_nil]⟩
  | nil =>
      -- No call is pending, so none is counted as a probe and the next one is let through.
      obtain ⟨uncounted, -, tally⟩ := period.tally
      have none : (after c (earlier ++ event :: more)).pendingProbes = 0 := by
        rw [pendingProbes, pending, List.countP_nil]
      have total := tally.pending
      have limit := c.probeLimit_pos
      obtain ⟨start, next, counter⟩ := tally.exists_start (by omega)
      rw [← after_period_concat] at next counter
      have some : 0 < (after c (earlier ++ event :: (more ++ [start]))).pendingProbes := by
        rw [next.pending, counter]
        omega
      obtain ⟨entry, member, -⟩ := List.countP_pos_iff.mp some
      obtain ⟨permit, held⟩ := exists_permit_of_mem member
      exact ⟨[start], period.extend next.half, entry.1, permit, held⟩

/-- A period can always go on until it closes the circuit. -/
theorem exists_recovered (left : Nat) (period : Period c earlier event more)
    (near : c.successLimit ≤ (recovery c earlier (event :: more)).own +
      (recovery c earlier (event :: more)).late + left) :
    ∃ others last, Recovered c earlier event (more ++ others) last := by
  induction left generalizing more with
  | zero =>
      have short := (faithful_after c (earlier ++ event :: more)).unrecovered period.half
      rw [← period.own_add_late] at short
      omega
  | succ left ih =>
      obtain ⟨part, period', call, permit, held⟩ := period.exists_held
      rcases period'.finish held with recovered | period''
      · exact ⟨part, _, recovered⟩
      · have success : (after c (earlier ++ event :: (more ++ part))).succeeded?
            (.finish call true 0) = some call := by rw [succeeded?, held, Option.map_some]
        have kept := recovery_le_append c earlier (event :: more) part
        have counted := (recovery c earlier (event :: (more ++ part))).own_add_late_watch
          (c := c) (.finish call true 0)
        rw [recovery_situation, success, Option.toList_some, List.length_singleton,
          ← recovery_concat, List.cons_append] at counted
        rw [List.cons_append] at kept
        obtain ⟨others, last, recovered⟩ := ih period'' (by omega)
        refine ⟨part ++ (.finish call true 0 :: others), last, ?_⟩
        simpa using recovered

/-- A call carried into a period can end in it with a success that helps to close it. -/
theorem exists_late (period : Period c earlier event more) (some : 0 < carried c earlier event) :
    ∃ others last, Recovered c earlier event others last ∧
      0 < (recovery c earlier (event :: (others ++ [last]))).late := by
  obtain ⟨entry, member, older⟩ := List.countP_pos_iff.mp some
  rw [recovery_situation] at member
  obtain ⟨permit, held⟩ := exists_permit_of_mem member
  have late : 0 < (recovery c earlier ([event] ++ [.finish entry.1 true 0])).late := by
    have outside : entry.1 ∉ (recovery c earlier [event]).begun := of_decide_eq_true older
    have success : (after c (earlier ++ [event])).succeeded? (.finish entry.1 true 0) =
        .some entry.1 := by rw [succeeded?, held, Option.map_some]
    rw [recovery_concat, Recovery.watch, recovery_situation, success]
    simp [outside]
  rcases period.start.finish held with recovered | period'
  · exact ⟨[], _, recovered, late⟩
  · obtain ⟨others, last, recovered⟩ := period'.exists_recovered c.successLimit (by omega)
    have kept := (recovery_le_append c earlier ([event] ++ [.finish entry.1 true 0])
      (others ++ [last])).2
    refine ⟨_, last, recovered, Nat.lt_of_lt_of_le late ?_⟩
    simpa using kept

end Period

/-! ## The exact condition -/

/-- **Whose successes close a circuit, exactly.**  Whenever a half-open circuit closes, the
successes of probes that began in its period and those of calls carried into the period
are together the limit, and the latter are no more than those calls; and a period closes
only after the full number of its own probes' successes, in whichever way it may go on,
exactly when no call was carried into it. -/
theorem recovery_successes (c : Config) (events : List Event) (last : Event)
    (half : (after c events).breaker.state = .halfOpen)
    (closed : (after c (events ++ [last])).breaker.state = .closed) :
    ∃ earlier event more, events = earlier ++ event :: more ∧
      Recovered c earlier event more last ∧
      (recovery c earlier (event :: (more ++ [last]))).own +
          (recovery c earlier (event :: (more ++ [last]))).late = c.successLimit ∧
      (recovery c earlier (event :: (more ++ [last]))).late ≤ carried c earlier event ∧
      ((∀ others final, Recovered c earlier event others final →
          c.successLimit ≤ (recovery c earlier (event :: (others ++ [final]))).own) ↔
        carried c earlier event = 0) := by
  obtain ⟨earlier, event, more, rfl, period⟩ := exists_period c events half
  rw [List.append_assoc, List.cons_append] at closed
  have recovered : Recovered c earlier event more last := ⟨period, closed⟩
  refine ⟨earlier, event, more, rfl, recovered, recovered.own_add_late, recovered.late_le_carried,
    fun needed => ?_, fun none others final recovered' => ?_⟩
  · by_contra some
    obtain ⟨others, final, recovered', late⟩ := period.exists_late (Nat.pos_of_ne_zero some)
    have total := recovered'.own_add_late
    have enough := needed others final recovered'
    omega
  · have total := recovered'.own_add_late
    have few := recovered'.late_le_carried
    omega

/-- Three calls begin while the circuit is closed, and the failure of the first one opens
it.  Call 4 is the only probe of the half-open period, and still pending when the second
call ends well. -/
def lateCalls : List Event :=
  [.start 1 0, .start 2 0, .start 3 0, .finish 1 false 0, .start 4 30000000000,
    .finish 2 true 30000000000]

/-- The success of the third call closes the circuit, and no probe has succeeded. -/
theorem recovery_successes_lateCalls :
    (after strict lateCalls).breaker.state = .halfOpen ∧
      (after strict (lateCalls ++ [.finish 3 true 30000000000])).breaker.state = .closed ∧
      (recovery strict (lateCalls.take 4)
        (lateCalls.drop 4 ++ [.finish 3 true 30000000000])).own = 0 ∧
      ∃ earlier event more, lateCalls = earlier ++ event :: more ∧
        Recovered strict earlier event more (.finish 3 true 30000000000) ∧
        (recovery strict earlier (event :: (more ++ [.finish 3 true 30000000000]))).own +
            (recovery strict earlier (event :: (more ++ [.finish 3 true 30000000000]))).late =
          strict.successLimit ∧
        (recovery strict earlier (event :: (more ++ [.finish 3 true 30000000000]))).late ≤
          carried strict earlier event ∧
        ((∀ others final, Recovered strict earlier event others final →
            strict.successLimit ≤
              (recovery strict earlier (event :: (others ++ [final]))).own) ↔
          carried strict earlier event = 0) :=
  ⟨by decide, by decide, by decide,
    recovery_successes strict lateCalls (.finish 3 true 30000000000) (by decide) (by decide)⟩

end Courier.Circuit.Overlap
