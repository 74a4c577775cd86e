/-
# Courier.Proofs.Limiter.Answers -- a limiter answers from everything it has granted

What a limiter tells an identifier depends on the admissions of that identifier in the
whole history, and on nothing else: `counted` is the number of them inside the window,
an admission is granted while it is below the quota, and what is left is the rest of
the quota.

So an event that grants the identifier nothing (`Idle`) leaves no trace in its later
answers.  `Thinned` relates a history to the same one without some of its idle events,
wherever they stand; both have the same admissions (`Thinned.admissions_eq`), hence the
same answers (`answers_of_admissions`).
-/
import Courier.Proofs.Limiter.Window

namespace Courier.Limiter

set_option autoImplicit false

variable {c : Config} {id : String} {events slim : List Event} {now : Instant}

/-- How many admissions of `id` in a history are less than a window before `now`. -/
def counted (c : Config) (id : String) (now : Instant) (events : List Event) : Nat :=
  (admissions c id events).countP fun a => decide (now - a < c.window.nanos)

theorem counted_eq_length (c : Config) (id : String) (now : Instant) (events : List Event) :
    counted c id now events = ((admissions c id events).filter (c.inWindow now)).length :=
  List.countP_eq_length_filter

/-! ## The two answers -/

theorem allow_iff_counted (ordered : Event.Ordered events)
    (past : ∀ event ∈ events, event.time ≤ now) :
    ((after c events).allow c now id).1 = true ↔
      counted c id now events < c.maxRequests.toNat := by
  rw [counted_eq_length]
  exact allow_after_iff (ordered_concat.mpr ⟨ordered, past⟩)

theorem remaining_eq_counted (ordered : Event.Ordered events)
    (past : ∀ event ∈ events, event.time ≤ now) :
    (after c events).remaining c now id = c.maxRequests.toNat - counted c id now events := by
  have remembers : Remembers c now ((after c events).admitted id) (admissions c id events) :=
    remembers_after ordered past
  rw [counted_eq_length, remaining, remembers.agrees now (Nat.le_refl now)]

/-! ## Events that grant nothing -/

/-- An event that grants `id` no admission: a sweep, a question, a request of another
identifier, or a request of `id` that is denied. -/
inductive Idle (c : Config) (id : String) (l : Limiter) : Event → Prop where
  | sweep (now : Instant) : Idle c id l (.sweep now)
  | question (other : String) (now : Instant) : Idle c id l (.remaining other now)
  | elsewhere {other : String} (now : Instant) (apart : other ≠ id) :
      Idle c id l (.allow other now)
  | denied {now : Instant} (denied : (l.allow c now id).1 = false) : Idle c id l (.allow id now)

theorem Idle.admits_eq_false {l : Limiter} {event : Event} (idle : Idle c id l event) :
    l.admits c id event = false := by
  cases idle with
  | sweep now => rfl
  | question other now => rfl
  | elsewhere now apart =>
      rw [admits, beq_eq_false_iff_ne.mpr apart, Bool.false_and]
  | denied denied => rw [admits, denied, Bool.and_false]

/-- `Thinned c id events slim`: the history `slim` is `events` without some of the events
that granted `id` nothing. -/
inductive Thinned (c : Config) (id : String) : List Event → List Event → Prop where
  | nil : Thinned c id [] []
  | kept {events slim : List Event} (event : Event) (rest : Thinned c id events slim) :
      Thinned c id (events ++ [event]) (slim ++ [event])
  | omitted {events slim : List Event} {event : Event} (rest : Thinned c id events slim)
      (idle : Idle c id (after c events) event) : Thinned c id (events ++ [event]) slim

namespace Thinned

theorem sublist (thinned : Thinned c id events slim) : slim.Sublist events := by
  induction thinned with
  | nil => exact List.Sublist.refl []
  | kept event rest ih => exact ih.append_right [event]
  | omitted rest idle ih => exact ih.trans (List.sublist_append_left _ _)

theorem ordered (thinned : Thinned c id events slim) (ordered : Event.Ordered events) :
    Event.Ordered slim :=
  List.Pairwise.sublist (thinned.sublist.map Event.time) ordered

theorem past (thinned : Thinned c id events slim) (past : ∀ event ∈ events, event.time ≤ now) :
    ∀ event ∈ slim, event.time ≤ now :=
  fun event member => past event (thinned.sublist.subset member)

end Thinned

/-- Histories with the same admissions of `id` grant it the same requests. -/
theorem admits_congr {event : Event} (same : admissions c id events = admissions c id slim)
    (ordered : Event.Ordered (events ++ [event])) (ordered' : Event.Ordered (slim ++ [event])) :
    (after c events).admits c id event = (after c slim).admits c id event := by
  cases event with
  | remaining other now => rfl
  | sweep now => rfl
  | allow other now =>
      by_cases here : other = id
      · subst here
        rw [admits, admits, beq_self_eq_true, Bool.true_and, Bool.true_and, Bool.eq_iff_iff,
          allow_after_iff ordered, allow_after_iff ordered', same]
      · rw [admits, admits, beq_eq_false_iff_ne.mpr here, Bool.false_and, Bool.false_and]

/-- Leaving idle events out changes nothing that is granted. -/
theorem Thinned.admissions_eq (thinned : Thinned c id events slim)
    (ordered : Event.Ordered events) : admissions c id events = admissions c id slim := by
  induction thinned with
  | nil => rfl
  | kept event rest ih =>
      have same := ih (ordered_concat.mp ordered).1
      have ordered' := (rest.kept event).ordered ordered
      rw [admissions_concat, admissions_concat, same, admits_congr same ordered ordered']
  | omitted rest idle ih =>
      rw [admissions_concat, idle.admits_eq_false, if_neg Bool.false_ne_true, List.append_nil]
      exact ih (ordered_concat.mp ordered).1

/-- **A limiter answers from everything it has granted.**  After any history whose clock
does not go back, a request at `now` is granted exactly when fewer than `maxRequests`
admissions of the identifier in that history are less than a window old, what remains is
the quota less their number, and the same history with idle events left out or put in
gives the same two answers. -/
theorem answers_of_admissions (c : Config) (id : String) (events : List Event) (now : Instant)
    (ordered : Event.Ordered events) (past : ∀ event ∈ events, event.time ≤ now) :
    (((after c events).allow c now id).1 = true ↔
      counted c id now events < c.maxRequests.toNat) ∧
    (after c events).remaining c now id = c.maxRequests.toNat - counted c id now events ∧
    ∀ slim, Thinned c id events slim →
      ((after c slim).allow c now id).1 = ((after c events).allow c now id).1 ∧
      (after c slim).remaining c now id = (after c events).remaining c now id := by
  refine ⟨allow_iff_counted ordered past, remaining_eq_counted ordered past,
    fun slim thinned => ?_⟩
  have ordered' := thinned.ordered ordered
  have past' := thinned.past past
  have same : counted c id now slim = counted c id now events := by
    rw [counted, counted, thinned.admissions_eq ordered]
  constructor
  · rw [Bool.eq_iff_iff, allow_iff_counted ordered' past', allow_iff_counted ordered past, same]
  · rw [remaining_eq_counted ordered' past', remaining_eq_counted ordered past, same]

/-- A denied request, a request of another guest, a question and a sweep, between two
admissions of one guest. -/
def noisyMinute : List Event :=
  [.allow "guest" 0, .allow "other" 10000000000, .allow "guest" 30000000000,
    .allow "guest" 45000000000, .remaining "guest" 50000000000, .sweep 60000000000]

/-- At the end of the minute the older admission has just left the window, and the
answers are those of the two admissions alone. -/
theorem answers_of_noisyMinute :
    Event.Ordered noisyMinute ∧ (∀ event ∈ noisyMinute, event.time ≤ 60000000000) ∧
      Thinned twoPerMinute "guest" noisyMinute [.allow "guest" 0, .allow "guest" 30000000000] ∧
      counted twoPerMinute "guest" 60000000000 noisyMinute = 1 ∧
      ((after twoPerMinute noisyMinute).allow twoPerMinute 60000000000 "guest").1 = true ∧
      (after twoPerMinute noisyMinute).remaining twoPerMinute 60000000000 "guest" = 1 ∧
      (after twoPerMinute [.allow "guest" 0, .allow "guest" 30000000000]).remaining
        twoPerMinute 60000000000 "guest" = 1 := by
  have ordered : Event.Ordered noisyMinute := by
    simp [Event.Ordered, noisyMinute, Event.time]
  have past : ∀ event ∈ noisyMinute, event.time ≤ 60000000000 := by
    simp [noisyMinute, Event.time]
  have count : counted twoPerMinute "guest" 60000000000 noisyMinute = 1 := by decide
  have thinned : Thinned twoPerMinute "guest" noisyMinute
      [.allow "guest" 0, .allow "guest" 30000000000] := by
    have none : Thinned twoPerMinute "guest" [] [] := .nil
    have first := none.kept (.allow "guest" 0)
    have second := (first.omitted (.elsewhere 10000000000 (by decide : "other" ≠ "guest"))).kept
      (.allow "guest" 30000000000)
    exact ((second.omitted (.denied (by decide))).omitted (.question "guest" 50000000000)).omitted
      (.sweep 60000000000)
  obtain ⟨granted, remains, others⟩ :=
    answers_of_admissions twoPerMinute "guest" noisyMinute 60000000000 ordered past
  rw [count] at granted remains
  exact ⟨ordered, past, thinned, count, granted.mpr (by decide), remains,
    (others _ thinned).2.trans remains⟩

end Courier.Limiter
