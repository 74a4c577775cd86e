/-
# Courier.Proofs.Limiter.Sweep -- what a sweep takes away

A sweep asks of every instant held whether it is inside the window.  It leaves every
identifier those that are, and takes away the identifiers that have none, among them the
ones that a denied request left without any instant.  Nothing here needs a clock that goes
forward: the instants held may be out of order, and they may lie in the future.

`Swept` tells what becomes of a limiter by its identifiers and what each of them holds.
Nobody is told another number of admissions left because of a sweep; what an expired
instant kept from being granted is granted afterwards (`allow_sweep_iff`), for a sweep also
forgets what is hidden behind an instant inside the window.

A limiter never holds more instants for an identifier than its quota, and so no more than
that survive.
-/
import Courier.Metric.Query
import Courier.Proofs.Limiter.Disorder

namespace Courier.Limiter

set_option autoImplicit false

variable {c : Config} {l : Limiter} {id : String} {now : Instant}

/-- The identifiers that hold state. -/
def identifiers (l : Limiter) : List String := l.entries.map (·.1)

/-- Whether an identifier holds an instant inside the window. -/
def isFresh (c : Config) (now : Instant) (l : Limiter) (id : String) : Bool :=
  (l.admitted id).any (c.inWindow now)

theorem length_identifiers (l : Limiter) : l.identifiers.length = l.tracked :=
  List.length_map _

/-! ## Who stays, and with what -/

theorem isFresh_of_mem (distinct : l.Distinct) {entry : String × List Instant}
    (member : entry ∈ l.entries) :
    l.isFresh c now entry.1 = !(entry.2.filter (c.inWindow now)).isEmpty := by
  rw [isFresh, admitted_of_mem distinct member, Bool.eq_iff_iff]
  simp

/-- Those stay who have something inside the window. -/
theorem identifiers_sweep (distinct : l.Distinct) (c : Config) (now : Instant) :
    (l.sweep c now).2.1.identifiers = l.identifiers.filter (l.isFresh c now) := by
  have alike : ∀ entry ∈ l.entries, (!(entry.2.filter (c.inWindow now)).isEmpty) =
      l.isFresh c now entry.1 :=
    fun entry member => (isFresh_of_mem distinct member).symm
  have kept : l.live c now =
      (l.entries.filter fun entry => l.isFresh c now entry.1).map
        fun entry => (entry.1, entry.2.filter (c.inWindow now)) := by
    rw [live, List.filter_map]
    exact congrArg (List.map _) (List.filter_congr alike)
  calc (l.sweep c now).2.1.identifiers
      = (l.live c now).map (·.1) := rfl
    _ = (l.entries.filter fun entry => l.isFresh c now entry.1).map (·.1) := by
        rw [kept, List.map_map]
        rfl
    _ = l.identifiers.filter (l.isFresh c now) := by
        rw [identifiers, List.filter_map]
        rfl

theorem tracked_sweep (distinct : l.Distinct) (c : Config) (now : Instant) :
    (l.sweep c now).2.1.tracked = l.identifiers.countP (l.isFresh c now) := by
  rw [← length_identifiers, identifiers_sweep distinct, List.countP_eq_length_filter]

/-! ## How many go -/

theorem removed_add_tracked (distinct : l.Distinct) (c : Config) (now : Instant) :
    (l.sweep c now).1 + (l.sweep c now).2.1.tracked = l.tracked := by
  have fewer : (l.sweep c now).2.1.tracked ≤ l.tracked := by
    rw [tracked_sweep distinct, ← length_identifiers]
    exact List.countP_le_length
  exact Nat.sub_add_cancel fewer

/-- As many go as have nothing inside the window. -/
theorem removed_eq_countP (distinct : l.Distinct) (c : Config) (now : Instant) :
    (l.sweep c now).1 = l.identifiers.countP fun id => !l.isFresh c now id := by
  have all := removed_add_tracked distinct c now
  have split := List.length_eq_countP_add_countP (l.isFresh c now) (l := l.identifiers)
  rw [tracked_sweep distinct] at all
  rw [length_identifiers] at split
  simp only [Bool.not_eq_true, Bool.decide_eq_false] at split
  omega

/-- A sweep counts as evicted what it answers. -/
theorem total_sweep (c : Config) (now : Instant) (l : Limiter) :
    Metric.total .evictions [] (l.sweep c now).2.2 = (l.sweep c now).1 := by
  by_cases none : (l.sweep c now).1 = 0
  · have quiet : (l.sweep c now).2.2 = [] := if_pos none
    rw [quiet, none, Metric.total_nil]
  · have told : (l.sweep c now).2.2 = [.evicted (l.sweep c now).1] := if_neg none
    rw [told]
    rfl

/-! ## A second sweep -/

/-- What a sweep leaves, a sweep at the same instant leaves alone. -/
theorem live_sweep (c : Config) (now : Instant) (l : Limiter) :
    (l.sweep c now).2.1.live c now = l.live c now := by
  have clean : ∀ entry ∈ l.live c now,
      (entry.1, entry.2.filter (c.inWindow now)) = entry ∧ entry.2 ≠ [] := by
    rintro ⟨id, instants⟩ member
    obtain ⟨held, -, rfl, some⟩ := mem_live.mp member
    refine ⟨?_, some⟩
    rw [List.filter_filter]
    simp only [Bool.and_self]
  have same : (l.live c now).map (fun entry => (entry.1, entry.2.filter (c.inWindow now))) =
      l.live c now :=
    (List.map_congr_left fun entry member => (clean entry member).1).trans (List.map_id _)
  change ((l.live c now).map _).filter _ = _
  rw [same]
  refine List.filter_eq_self.mpr fun entry member => ?_
  simpa using (clean entry member).2

/-- A limiter that holds nothing expired is left as it is. -/
theorem sweep_of_live (whole : l.live c now = l.entries) : l.sweep c now = (0, l, []) := by
  simp only [sweep, whole, Nat.sub_self, if_true]

theorem sweep_sweep (c : Config) (now : Instant) (l : Limiter) :
    (l.sweep c now).2.1.sweep c now = (0, (l.sweep c now).2.1, []) :=
  sweep_of_live (live_sweep c now l)

/-! ## What is answered afterwards -/

theorem remaining_sweep (distinct : l.Distinct) (c : Config) (now : Instant) (id : String) :
    (l.sweep c now).2.1.remaining c now id = l.remaining c now id := by
  rw [remaining, remaining, admitted_sweep distinct, List.filter_filter]
  simp only [Bool.and_self]

/-- After a sweep a request is granted exactly when something remains. -/
theorem allow_sweep_iff (distinct : l.Distinct) (c : Config) (now : Instant) (id : String) :
    ((l.sweep c now).2.1.allow c now id).1 = true ↔ 0 < l.remaining c now id := by
  have clean : ((l.admitted id).filter (c.inWindow now)).dropWhile
      (fun instant => !c.inWindow now instant) = (l.admitted id).filter (c.inWindow now) := by
    rw [List.dropWhile_eq_self_iff]
    intro positive
    have inside := List.of_mem_filter (List.getElem_mem positive)
    simpa using inside
  rw [allow_eq_true_iff, remaining_pos_iff, admitted_sweep distinct, clean]

/-- What a sweep at `now` makes of a limiter, and what it answers. -/
structure Swept (c : Config) (now : Instant) (l : Limiter)
    (answer : Nat × Limiter × List Metric) : Prop where
  /-- An identifier stays exactly when it holds an instant inside the window. -/
  identifiers : answer.2.1.identifiers = l.identifiers.filter (l.isFresh c now)
  /-- Everyone keeps the instants inside the window, in their order. -/
  kept : ∀ id, answer.2.1.admitted id = (l.admitted id).filter (c.inWindow now)
  removed : answer.1 = l.identifiers.countP fun id => !l.isFresh c now id
  tracked : answer.1 + answer.2.1.tracked = l.tracked
  evicted : Metric.total .evictions [] answer.2.2 = answer.1
  remaining : ∀ id, answer.2.1.remaining c now id = l.remaining c now id
  granted : ∀ id, (answer.2.1.allow c now id).1 = true ↔ 0 < l.remaining c now id
  again : answer.2.1.sweep c now = (0, answer.2.1, [])

/-- **A sweep takes away what has expired, and only that.**  After any history, whatever the
clock did in its course, no identifier holds more instants than its quota, and a sweep at any
instant leaves exactly the identifiers with an instant inside the window, each with these
instants in their order; it answers, and counts as evicted, how many identifiers went; it
changes what remains for nobody; and a second sweep at that instant finds nothing to do. -/
theorem sweep_exact (c : Config) (events : List Event) (now : Instant) :
    (∀ id, ((after c events).admitted id).length ≤ c.maxRequests.toNat) ∧
      Swept c now (after c events) ((after c events).sweep c now) := by
  have distinct := distinct_after c events
  refine ⟨fun id => length_admitted_le c id events, ?_⟩
  exact {
    identifiers := identifiers_sweep distinct c now
    kept := admitted_sweep distinct c now
    removed := removed_eq_countP distinct c now
    tracked := removed_add_tracked distinct c now
    evicted := total_sweep c now _
    remaining := remaining_sweep distinct c now
    granted := allow_sweep_iff distinct c now
    again := sweep_sweep c now _ }

/-- With no quota every request is denied, and leaves an identifier that holds nothing. -/
example :
    (after ⟨0, .ofSeconds 60⟩ [.allow "guest" 0]).sweep ⟨0, .ofSeconds 60⟩ 0 =
      (1, empty, [.evicted 1]) := by
  decide

end Courier.Limiter
