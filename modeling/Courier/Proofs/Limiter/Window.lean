/-
# Courier.Proofs.Limiter.Window -- what a limiter remembers, and what it has granted

A limiter forgets: an admission drops expired instants from the front, a sweep drops
all of them and whole identifiers with them.  What it still holds answers for
everything it has granted, as long as its clock does not go back (`Remembers`):
inside the window of any later instant, the held instants and the admissions of the
whole history are the same.  Expired instants stay expired, which is why dropping
them is harmless; and the held instants are in order, which is why dropping them from
the front finds all of them (`dropWhile_expired`).

So an admission is granted exactly when the history has fewer than `maxRequests`
admissions in the window (`allow_after_iff`), and no window anywhere holds more than
that many (`admissions_in_window_le`).
-/
import Courier.Limiter
import Mathlib.Data.List.Induction
import Mathlib.Data.List.Nodup

namespace Courier.Limiter

set_option autoImplicit false

variable {c : Config} {l : Limiter} {id : String}

/-! ## Entries -/

/-- Every identifier has one entry. -/
def Distinct (l : Limiter) : Prop := (l.entries.map (·.1)).Nodup

theorem admitted_of_mem (distinct : l.Distinct) {instants : List Instant}
    (member : (id, instants) ∈ l.entries) : l.admitted id = instants := by
  obtain ⟨entries⟩ := l
  simp only [Distinct] at distinct
  simp only [admitted]
  induction entries with
  | nil => simp at member
  | cons entry entries ih =>
      rw [List.map_cons, List.nodup_cons] at distinct
      rcases List.mem_cons.mp member with rfl | later
      · simp
      · have apart : ¬ entry.1 = id := fun same =>
          distinct.1 (same ▸ List.mem_map_of_mem later)
        rw [List.find?_cons_of_neg (by simpa using apart)]
        exact ih distinct.2 later

theorem admitted_of_untracked (untracked : ∀ entry ∈ l.entries, entry.1 ≠ id) :
    l.admitted id = [] := by
  have absent : l.entries.find? (·.1 == id) = none :=
    List.find?_eq_none.mpr fun entry member => by simpa using untracked entry member
  rw [admitted, absent]
  rfl

theorem map_fst_replace (entries : List (String × List Instant)) (id : String)
    (instants : List Instant) :
    (entries.map fun entry => if entry.1 == id then (id, instants) else entry).map (·.1) =
      entries.map (·.1) := by
  rw [List.map_map]
  refine List.map_congr_left fun entry _ => ?_
  by_cases same : entry.1 = id <;> simp [same]

theorem find?_replace_of_ne (entries : List (String × List Instant)) {id other : String}
    (apart : other ≠ id) (instants : List Instant) :
    (entries.map fun entry => if entry.1 == id then (id, instants) else entry).find?
      (·.1 == other) = entries.find? (·.1 == other) := by
  induction entries with
  | nil => rfl
  | cons entry entries ih =>
      rw [List.map_cons]
      by_cases same : entry.1 = id
      · have elsewhere : ¬ entry.1 = other := fun equal => apart (equal.symm.trans same)
        rw [List.find?_cons_of_neg (by simp [same, Ne.symm apart]), ih,
          List.find?_cons_of_neg (by simpa using elsewhere)]
      · simp only [beq_eq_false_iff_ne.mpr same, Bool.false_eq_true, if_false, List.find?_cons, ih]

theorem distinct_record (distinct : l.Distinct) (id : String) (instants : List Instant) :
    (l.record id instants).Distinct := by
  unfold record
  split
  · rw [Distinct, map_fst_replace]
    exact distinct
  · rename_i untracked
    have absent : id ∉ l.entries.map (·.1) := by
      simpa only [List.any_eq_true, List.mem_map, beq_iff_eq] using untracked
    rw [Distinct, List.map_append, List.map_singleton, ← List.concat_eq_append]
    exact (List.nodup_concat _ _).mpr ⟨absent, distinct⟩

theorem admitted_record_self (distinct : l.Distinct) (id : String) (instants : List Instant) :
    (l.record id instants).admitted id = instants := by
  refine admitted_of_mem (distinct_record distinct id instants) ?_
  unfold record
  split
  · rename_i tracked
    obtain ⟨entry, member, same⟩ := List.any_eq_true.mp tracked
    exact List.mem_map.mpr ⟨entry, member, by simp [same]⟩
  · exact List.mem_append_right _ (List.mem_singleton.mpr rfl)

theorem admitted_record_of_ne (l : Limiter) {id other : String} (apart : other ≠ id)
    (instants : List Instant) : (l.record id instants).admitted other = l.admitted other := by
  unfold record
  split
  · simp only [admitted, find?_replace_of_ne l.entries apart]
  · have elsewhere : ¬ id = other := Ne.symm apart
    simp [admitted, List.find?_append, elsewhere]

/-! ## Sweeps -/

theorem mem_live {now : Instant} {instants : List Instant} :
    (id, instants) ∈ l.live c now ↔
      ∃ held, (id, held) ∈ l.entries ∧ held.filter (c.inWindow now) = instants ∧ instants ≠ [] := by
  simp only [live, List.mem_filter, List.mem_map, Prod.mk.injEq, Bool.not_eq_true',
    List.isEmpty_eq_false_iff]
  constructor
  · rintro ⟨⟨entry, member, rfl, rfl⟩, some⟩
    exact ⟨entry.2, member, rfl, some⟩
  · rintro ⟨held, member, rfl, some⟩
    exact ⟨⟨(id, held), member, rfl, rfl⟩, some⟩

theorem distinct_sweep (distinct : l.Distinct) (c : Config) (now : Instant) :
    (l.sweep c now).2.1.Distinct := by
  have kept : ((l.live c now).map (·.1)).Sublist
      ((l.entries.map fun entry => (entry.1, entry.2.filter (c.inWindow now))).map (·.1)) :=
    List.filter_sublist.map _
  rw [List.map_map] at kept
  exact List.Nodup.sublist kept distinct

/-- A sweep leaves every identifier what is inside the window: an identifier with
nothing left there goes, and holds nothing either way. -/
theorem admitted_sweep (distinct : l.Distinct) (c : Config) (now : Instant) (id : String) :
    (l.sweep c now).2.1.admitted id = (l.admitted id).filter (c.inWindow now) := by
  have swept := distinct_sweep distinct c now
  by_cases tracked : ∃ held, (id, held) ∈ l.entries
  · obtain ⟨held, member⟩ := tracked
    rw [admitted_of_mem distinct member]
    by_cases nothing : held.filter (c.inWindow now) = []
    · rw [nothing]
      refine admitted_of_untracked fun entry live same => ?_
      obtain ⟨number, instants⟩ := entry
      obtain ⟨other, member', rfl, some⟩ := mem_live.mp live
      have equal : other = held := by
        rw [← admitted_of_mem distinct member, ← same, admitted_of_mem distinct member']
      exact some (equal ▸ nothing)
    · exact admitted_of_mem swept (mem_live.mpr ⟨held, member, rfl, nothing⟩)
  · have untracked : ∀ entry ∈ l.entries, entry.1 ≠ id := fun entry member same =>
      tracked ⟨entry.2, same ▸ member⟩
    rw [admitted_of_untracked untracked, List.filter_nil]
    refine admitted_of_untracked fun entry live same => ?_
    obtain ⟨held, member, _⟩ := mem_live.mp live
    exact untracked _ member same

/-! ## The window -/

theorem inWindow_iff {now admitted : Nat} :
    c.inWindow now admitted = true ↔ now - admitted < c.window.nanos :=
  decide_eq_true_iff

/-- What is inside the window later was inside it before. -/
theorem inWindow_of_later {now later admitted : Nat} (le : now ≤ later)
    (inside : c.inWindow later admitted = true) : c.inWindow now admitted = true := by
  rw [inWindow_iff] at inside ⊢
  omega

/-- Of two instants the later one is inside the window for longer. -/
theorem inWindow_of_earlier {now first second : Nat} (le : first ≤ second)
    (inside : c.inWindow now first = true) : c.inWindow now second = true := by
  rw [inWindow_iff] at inside ⊢
  omega

theorem filter_inWindow_filter {now later : Instant} (le : now ≤ later)
    (instants : List Instant) :
    (instants.filter (c.inWindow now)).filter (c.inWindow later) =
      instants.filter (c.inWindow later) := by
  rw [List.filter_filter]
  refine List.filter_congr fun admitted _ => ?_
  cases inside : c.inWindow later admitted with
  | false => rfl
  | true => rw [inWindow_of_later le inside]; rfl

/-- In order, the expired instants are those at the front. -/
theorem dropWhile_expired {instants : List Instant} (ordered : instants.Pairwise (· ≤ ·))
    (now : Instant) :
    instants.dropWhile (fun instant => !c.inWindow now instant) =
      instants.filter (c.inWindow now) := by
  induction instants with
  | nil => rfl
  | cons first rest ih =>
      rw [List.pairwise_cons] at ordered
      cases inside : c.inWindow now first with
      | false =>
          rw [List.dropWhile_cons_of_pos (by simp [inside]),
            List.filter_cons_of_neg (by simp [inside])]
          exact ih ordered.2
      | true =>
          have all : ∀ other ∈ rest, c.inWindow now other = true := fun other member =>
            inWindow_of_earlier (ordered.1 other member) inside
          rw [List.dropWhile_cons_of_neg (by simp [inside]), List.filter_cons_of_pos inside,
            List.filter_eq_self.mpr all]

/-! ## What is held answers for what was granted -/

/-- Held instants in order and not in the future, that agree with a history of
admissions inside the window of every instant from `now` on. -/
structure Remembers (c : Config) (now : Instant) (held history : List Instant) : Prop where
  ordered : held.Pairwise (· ≤ ·)
  past : ∀ instant ∈ held, instant ≤ now
  agrees : ∀ later, now ≤ later →
    held.filter (c.inWindow later) = history.filter (c.inWindow later)

namespace Remembers

variable {now later : Instant} {held history : List Instant}

theorem mono (remembers : Remembers c now held history) (le : now ≤ later) :
    Remembers c later held history where
  ordered := remembers.ordered
  past := fun instant member => Nat.le_trans (remembers.past instant member) le
  agrees := fun last le' => remembers.agrees last (Nat.le_trans le le')

/-- Forgetting what has expired. -/
theorem forget (remembers : Remembers c now held history) :
    Remembers c now (held.filter (c.inWindow now)) history where
  ordered := remembers.ordered.sublist List.filter_sublist
  past := fun instant member => remembers.past instant (List.mem_of_mem_filter member)
  agrees := fun later le => by rw [filter_inWindow_filter le, remembers.agrees later le]

/-- One more admission. -/
theorem granted (remembers : Remembers c now held history) :
    Remembers c now (held ++ [now]) (history ++ [now]) where
  ordered := List.pairwise_append.mpr ⟨remembers.ordered, List.pairwise_singleton _ now,
    fun instant member last here => by
      rw [List.mem_singleton.mp here]
      exact remembers.past instant member⟩
  past := fun instant member => by
    rcases List.mem_append.mp member with before | here
    · exact remembers.past instant before
    · exact Nat.le_of_eq (List.mem_singleton.mp here)
  agrees := fun later le => by
    rw [List.filter_append, List.filter_append, remembers.agrees later le]

/-- The instants an admission counts are the admissions inside the window. -/
theorem live_eq (remembers : Remembers c now held history) :
    held.dropWhile (fun instant => !c.inWindow now instant) =
      history.filter (c.inWindow now) := by
  rw [dropWhile_expired remembers.ordered, remembers.agrees now (Nat.le_refl now)]

end Remembers

/-- What an admission leaves of the identifier it is about. -/
theorem admitted_allow_self (distinct : l.Distinct) (c : Config) (now : Instant) (id : String) :
    (l.allow c now id).2.1.admitted id =
      (l.admitted id).dropWhile (fun instant => !c.inWindow now instant) ++
        if (l.allow c now id).1 then [now] else [] := by
  refine (admitted_record_self distinct id _).trans ?_
  change (if (l.allow c now id).1 = true then _ else _) = _
  cases (l.allow c now id).1 with
  | true => rfl
  | false => exact (List.append_nil _).symm

theorem distinct_step (distinct : l.Distinct) (c : Config) (event : Event) :
    (l.step c event).Distinct := by
  cases event with
  | allow other now => exact distinct_record distinct other _
  | remaining other now => exact distinct
  | sweep now => exact distinct_sweep distinct c now

/-- One event at an instant that is not before the others. -/
theorem Remembers.step {now : Instant} {history : List Instant}
    (remembers : Remembers c now (l.admitted id) history) (distinct : l.Distinct)
    (event : Event) (le : now ≤ event.time) :
    Remembers c event.time ((l.step c event).admitted id)
      (history ++ if l.admits c id event then [event.time] else []) := by
  have here := remembers.mono le
  cases event with
  | allow other now' =>
      simp only [Event.time] at here ⊢
      by_cases same : other = id
      · subst same
        simp only [Limiter.step, admits, beq_self_eq_true, Bool.true_and,
          admitted_allow_self distinct]
        rw [dropWhile_expired here.ordered]
        split
        · exact here.forget.granted
        · rw [List.append_nil, List.append_nil]
          exact here.forget
      · have apart : id ≠ other := Ne.symm same
        simp only [Limiter.step, admits, allow, admitted_record_of_ne l apart,
          beq_eq_false_iff_ne.mpr same, Bool.false_and, Bool.false_eq_true, if_false,
          List.append_nil]
        exact here
  | remaining other now' =>
      simp only [Limiter.step, admits, Bool.false_eq_true, if_false, List.append_nil]
      exact here
  | sweep now' =>
      simp only [Limiter.step, admits, Bool.false_eq_true, if_false, List.append_nil,
        admitted_sweep distinct]
      exact here.forget

/-! ## Histories -/

theorem admissionsFrom_concat (l : Limiter) (events : List Event) (event : Event) :
    admissionsFrom c id l (events ++ [event]) =
      admissionsFrom c id l events ++
        if (events.foldl (step c) l).admits c id event then [event.time] else [] := by
  induction events generalizing l with
  | nil => exact List.append_nil _
  | cons first events ih =>
      rw [List.cons_append, admissionsFrom, admissionsFrom, ih, List.append_assoc, List.foldl_cons]

theorem admissions_concat (events : List Event) (event : Event) :
    admissions c id (events ++ [event]) =
      admissions c id events ++
        if (after c events).admits c id event then [event.time] else [] :=
  admissionsFrom_concat empty events event

theorem after_concat (events : List Event) (event : Event) :
    after c (events ++ [event]) = (after c events).step c event := by
  rw [after, List.foldl_append]
  rfl

theorem distinct_after (c : Config) (events : List Event) : (after c events).Distinct := by
  induction events using List.reverseRecOn with
  | nil => exact List.nodup_nil
  | append_singleton events event ih =>
      rw [after_concat]
      exact distinct_step ih c event

theorem ordered_concat {events : List Event} {event : Event} :
    Event.Ordered (events ++ [event]) ↔
      Event.Ordered events ∧ ∀ earlier ∈ events, earlier.time ≤ event.time := by
  simp [Event.Ordered, List.pairwise_append]

/-- After a history the limiter answers for all of it, at any instant not before its
last event. -/
theorem remembers_after {events : List Event} (ordered : Event.Ordered events) {now : Instant}
    (past : ∀ event ∈ events, event.time ≤ now) :
    Remembers c now ((after c events).admitted id) (admissions c id events) := by
  induction events using List.reverseRecOn generalizing now with
  | nil =>
      exact ⟨List.Pairwise.nil, fun instant member => (List.not_mem_nil member).elim,
        fun later _ => rfl⟩
  | append_singleton events event ih =>
      obtain ⟨before, last⟩ := ordered_concat.mp ordered
      have step := (ih before last).step (distinct_after c events) event (Nat.le_refl _)
      rw [after_concat, admissions_concat]
      exact step.mono (past event (by simp))

/-- An admission is granted exactly when the history has fewer than `maxRequests`
admissions inside the window. -/
theorem allow_after_iff {events : List Event} {now : Instant}
    (ordered : Event.Ordered (events ++ [.allow id now])) :
    ((after c events).allow c now id).1 = true ↔
      ((admissions c id events).filter (c.inWindow now)).length < c.maxRequests.toNat := by
  obtain ⟨before, last⟩ := ordered_concat.mp ordered
  have remembers : Remembers c now ((after c events).admitted id) (admissions c id events) :=
    remembers_after before last
  rw [← remembers.live_eq]
  exact decide_eq_true_iff

theorem exists_of_admits {event : Event} (admitted : l.admits c id event = true) :
    ∃ now, event = .allow id now ∧ (l.allow c now id).1 = true := by
  cases event with
  | allow other now =>
      obtain ⟨same, granted⟩ := Bool.and_eq_true_iff.mp admitted
      obtain rfl : other = id := by simpa using same
      exact ⟨now, rfl, granted⟩
  | remaining other now => cases admitted
  | sweep now => cases admitted

/-- Instants from `t` on are inside the window at `now`, if the window that begins at
`t` has not ended by then. -/
theorem countP_le_live {t now : Nat} (history : List Instant)
    (running : now < t + c.window.nanos) :
    history.countP (fun a => decide (t ≤ a ∧ a < t + c.window.nanos)) ≤
      (history.filter (c.inWindow now)).length := by
  rw [← List.countP_eq_length_filter]
  refine List.countP_mono_left fun a _ inside => ?_
  rw [inWindow_iff]
  have bounds := of_decide_eq_true inside
  have lower : t ≤ (a : Nat) := bounds.1
  omega

/-- **The quota holds in every window.**  In any history whose clock does not go back,
an identifier is admitted at most `maxRequests` times at instants from `t` on and
before `t + window`, wherever the window begins. -/
theorem admissions_in_window_le (c : Config) (events : List Event)
    (ordered : Event.Ordered events) (id : String) (t : Instant) :
    (admissions c id events).countP (fun a => decide (t ≤ a ∧ a < t + c.window.nanos)) ≤
      c.maxRequests.toNat := by
  induction events using List.reverseRecOn with
  | nil => exact Nat.zero_le _
  | append_singleton events event ih =>
      obtain ⟨before, last⟩ := ordered_concat.mp ordered
      rw [admissions_concat]
      cases admitted : (after c events).admits c id event with
      | false =>
          rw [if_neg Bool.false_ne_true, List.append_nil]
          exact ih before
      | true =>
          obtain ⟨now, rfl, granted⟩ := exists_of_admits admitted
          rw [if_pos rfl, List.countP_append, List.countP_singleton]
          split
          · -- The new admission is in the window, and it saw everything else that is.
            rename_i inside
            have room := (allow_after_iff ordered).mp granted
            have running : now < t + c.window.nanos := (of_decide_eq_true inside).2
            exact Nat.lt_of_le_of_lt (countP_le_live _ running) room
          · exact ih before

/-- Two admissions a minute. -/
def twoPerMinute : Config where
  maxRequests := 2
  window := .ofSeconds 60

/-- The last request finds one admission a whole window back, which no longer counts,
and another one that does. -/
def busyMinute : List Event :=
  [.allow "guest" 0, .allow "guest" 30000000000, .allow "guest" 59999999999,
    .sweep 60000000000, .allow "guest" 60000000000]

/-- Three admissions, of which no window has more than two. -/
theorem admissions_in_window_busyMinute :
    Event.Ordered busyMinute ∧
      admissions twoPerMinute "guest" busyMinute = [0, 30000000000, 60000000000] ∧
      (admissions twoPerMinute "guest" busyMinute).countP
          (fun a => decide (30000000000 ≤ a ∧ a < 30000000000 + twoPerMinute.window.nanos)) ≤
        twoPerMinute.maxRequests.toNat :=
  ⟨by simp [Event.Ordered, busyMinute, Event.time], by decide,
    admissions_in_window_le twoPerMinute busyMinute
      (by simp [Event.Ordered, busyMinute, Event.time]) "guest" 30000000000⟩

end Courier.Limiter
