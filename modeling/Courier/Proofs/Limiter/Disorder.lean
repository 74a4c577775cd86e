/-
# Courier.Proofs.Limiter.Disorder -- a limiter whose clock samples come out of order

A request reads the clock before it reaches the limiter, so the samples of overlapping
requests can reach it in another order than that of time, and the instants held for an
identifier need not be in order.  An admission forgets expired instants from the front only
and counts what is left; what remains of the quota is counted over all held instants.  The
two agree unless an instant inside the window stands at the front and hides an expired one
(`Hidden`), and then only if the quota is used up with the hidden instant counted: an
identifier never holds more instants than its quota (`length_admitted_le`).

Whatever the samples, a request is granted only if something remains; the converse fails
exactly while an expired instant is hidden, which can happen at some instant exactly when
the identifier holds its whole quota and an older instant than the one at the front
(`forall_not_hidden_iff`).  Samples that reach the limiter in order leave the held instants
in order (`admitted_sublist_admissions`), and nothing is ever hidden.
-/
import Courier.Proofs.Limiter.Window
import Mathlib.Data.List.TakeWhile

namespace Courier.Limiter

set_option autoImplicit false

variable {c : Config} {l : Limiter} {id : String} {held : List Instant} {now : Instant}

/-! ## What an identifier holds -/

/-- An event keeps some of the instants held for an identifier and adds its own if it is an
admission, which needs room for one more. -/
theorem exists_kept (distinct : l.Distinct) (c : Config) (id : String) (event : Event) :
    ∃ kept, kept.Sublist (l.admitted id) ∧
      (l.admits c id event = true → kept.length < c.maxRequests.toNat) ∧
      (l.step c event).admitted id =
        kept ++ if l.admits c id event then [event.time] else [] := by
  cases event with
  | allow other now =>
      by_cases same : other = id
      · subst same
        refine ⟨(l.admitted other).dropWhile fun instant => !c.inWindow now instant,
          List.dropWhile_sublist _, fun granted => ?_, ?_⟩
        · rw [admits, beq_self_eq_true, Bool.true_and] at granted
          exact of_decide_eq_true granted
        · rw [admits, beq_self_eq_true, Bool.true_and]
          exact admitted_allow_self distinct c now other
      · have apart : id ≠ other := Ne.symm same
        have elsewhere : l.admits c id (.allow other now) = false := by
          rw [admits, beq_eq_false_iff_ne.mpr same, Bool.false_and]
        refine ⟨_, List.Sublist.refl _, fun granted => ?_, ?_⟩
        · rw [elsewhere] at granted
          cases granted
        · rw [elsewhere, if_neg Bool.false_ne_true, List.append_nil]
          exact admitted_record_of_ne l apart _
  | remaining other now =>
      exact ⟨_, List.Sublist.refl _, fun granted => absurd granted Bool.false_ne_true,
        (List.append_nil _).symm⟩
  | sweep now =>
      refine ⟨(l.admitted id).filter (c.inWindow now), List.filter_sublist,
        fun granted => absurd granted Bool.false_ne_true, ?_⟩
      exact (admitted_sweep distinct c now id).trans (List.append_nil _).symm

/-- An identifier never holds more instants than its quota. -/
theorem length_admitted_le (c : Config) (id : String) (events : List Event) :
    ((after c events).admitted id).length ≤ c.maxRequests.toNat := by
  induction events using List.reverseRecOn with
  | nil => exact Nat.zero_le _
  | append_singleton events event ih =>
      obtain ⟨kept, fewer, room, step⟩ := exists_kept (distinct_after c events) c id event
      have short := fewer.length_le
      rw [after_concat, step]
      cases granted : (after c events).admits c id event with
      | true =>
          have below := room granted
          simp only [if_true, List.length_append, List.length_singleton]
          omega
      | false =>
          rw [if_neg Bool.false_ne_true, List.append_nil]
          omega

/-- The instants held for an identifier are some of its admissions, in the order in which
they were granted. -/
theorem admitted_sublist_admissions (c : Config) (id : String) (events : List Event) :
    ((after c events).admitted id).Sublist (admissions c id events) := by
  induction events using List.reverseRecOn with
  | nil => exact List.Sublist.refl []
  | append_singleton events event ih =>
      obtain ⟨kept, fewer, -, step⟩ := exists_kept (distinct_after c events) c id event
      rw [after_concat, step, admissions_concat]
      exact (fewer.trans ih).append_right _

/-! ## The two ways to count -/

theorem allow_eq_true_iff :
    (l.allow c now id).1 = true ↔
      ((l.admitted id).dropWhile fun instant => !c.inWindow now instant).length <
        c.maxRequests.toNat :=
  decide_eq_true_iff

theorem remaining_pos_iff :
    0 < l.remaining c now id ↔
      ((l.admitted id).filter (c.inWindow now)).length < c.maxRequests.toNat :=
  Nat.sub_pos_iff_lt

/-- Forgetting from the front loses nothing inside the window. -/
theorem filter_dropWhile_expired (c : Config) (now : Instant) (held : List Instant) :
    (held.dropWhile fun instant => !c.inWindow now instant).filter (c.inWindow now) =
      held.filter (c.inWindow now) := by
  induction held with
  | nil => rfl
  | cons first rest ih =>
      cases inside : c.inWindow now first with
      | true => rw [List.dropWhile_cons_of_neg (by simp [inside])]
      | false =>
          rw [List.dropWhile_cons_of_pos (by simp [inside]), ih,
            List.filter_cons_of_neg (by simp [inside])]

/-- A request counts every instant inside the window, so it is granted only if something
remains. -/
theorem remaining_pos_of_allow (granted : (l.allow c now id).1 = true) :
    0 < l.remaining c now id := by
  rw [allow_eq_true_iff] at granted
  rw [remaining_pos_iff, ← filter_dropWhile_expired]
  exact Nat.lt_of_le_of_lt (List.length_filter_le _ _) granted

/-! ## Hidden instants -/

/-- The whole quota is held, and an instant inside the window stands at the front of one
that has expired. -/
structure Hidden (c : Config) (held : List Instant) (now : Instant) : Prop where
  full : held.length = c.maxRequests.toNat
  front : ∃ first, held.head? = some first ∧ c.inWindow now first = true
  behind : ∃ instant ∈ held, c.inWindow now instant = false

/-- The two counts are on different sides of the quota exactly while an instant is hidden. -/
theorem hidden_iff (bounded : held.length ≤ c.maxRequests.toNat) :
    Hidden c held now ↔
      (held.filter (c.inWindow now)).length < c.maxRequests.toNat ∧
        c.maxRequests.toNat ≤
          (held.dropWhile fun instant => !c.inWindow now instant).length := by
  have fewer : (held.filter (c.inWindow now)).length < held.length ↔
      ∃ instant ∈ held, c.inWindow now instant = false := by
    simp [List.length_filter_lt_length_iff_exists]
  constructor
  · rintro ⟨full, ⟨first, front, inside⟩, behind⟩
    obtain ⟨rest, rfl⟩ := List.head?_eq_some_iff.mp front
    rw [List.dropWhile_cons_of_neg (by simp [inside]), ← full]
    exact ⟨fewer.mpr behind, Nat.le_refl _⟩
  · rintro ⟨few, many⟩
    have part : (held.dropWhile fun instant => !c.inWindow now instant).Sublist held :=
      List.dropWhile_sublist _
    have full : held.length = c.maxRequests.toNat :=
      Nat.le_antisymm bounded (Nat.le_trans many part.length_le)
    -- Nothing was dropped, so the front is inside the window.
    have whole : (held.dropWhile fun instant => !c.inWindow now instant) = held :=
      part.eq_of_length (Nat.le_antisymm part.length_le (full ▸ many))
    rw [← full] at few
    obtain ⟨instant, member, expired⟩ := fewer.mp few
    refine ⟨full, ?_, instant, member, expired⟩
    cases held with
    | nil => cases member
    | cons first rest =>
        rw [List.dropWhile_eq_self_iff] at whole
        exact ⟨first, rfl, by simpa using whole (Nat.succ_pos _)⟩

/-- Of two instants the older one expires first: at some moment it has, and the newer one
has not. -/
theorem exists_between {older newer window : Nat} (apart : older < newer) (positive : 0 < window) :
    ∃ now, now - newer < window ∧ window ≤ now - older :=
  ⟨max newer (older + window), by omega, by omega⟩

/-- Nothing is hidden at any instant exactly when there is room in the quota, or no window,
or no older instant than the one at the front. -/
theorem forall_not_hidden_iff (bounded : held.length ≤ c.maxRequests.toNat) :
    (∀ now, ¬ Hidden c held now) ↔
      held.length < c.maxRequests.toNat ∨ c.window.nanos = 0 ∨
        ∀ first, held.head? = some first → ∀ instant ∈ held, first ≤ instant := by
  constructor
  · intro never
    rcases Nat.lt_or_ge held.length c.maxRequests.toNat with room | many
    · exact .inl room
    rcases Nat.eq_zero_or_pos c.window.nanos with none | window
    · exact .inr (.inl none)
    refine .inr (.inr fun first front instant member => ?_)
    by_contra older
    obtain ⟨now, fresh, stale⟩ := exists_between (Nat.lt_of_not_le older) window
    refine never now ⟨Nat.le_antisymm bounded many, ⟨first, front, ?_⟩, instant, member, ?_⟩
    · exact inWindow_iff.mpr fresh
    · rw [← Bool.not_eq_true, inWindow_iff]
      exact Nat.not_lt.mpr stale
  · rintro (room | none | oldest) now ⟨full, ⟨first, front, inside⟩, instant, member, expired⟩
    · exact absurd full (Nat.ne_of_lt room)
    · rw [inWindow_iff, none] at inside
      exact Nat.not_lt_zero _ inside
    · have later := inWindow_of_earlier (oldest first front instant member) inside
      rw [expired] at later
      exact Bool.false_ne_true later

theorem not_hidden_of_ordered (ordered : held.Pairwise (· ≤ ·)) : ¬ Hidden c held now := by
  rintro ⟨-, ⟨first, front, inside⟩, instant, member, expired⟩
  obtain ⟨rest, rfl⟩ := List.head?_eq_some_iff.mp front
  rw [List.pairwise_cons] at ordered
  have later : first ≤ instant := by
    rcases List.mem_cons.mp member with rfl | behind
    · exact Nat.le_refl _
    · exact ordered.1 instant behind
  rw [inWindow_of_earlier later inside] at expired
  cases expired

/-- **When a grant and what remains agree.**  After any history, whatever its clock samples:
a request is granted only if something remains; a request at `now` is granted exactly when
something remains unless an expired instant is hidden then; that is so for every `now`
exactly when the identifier has room in its quota, the window is empty, or no instant it
holds is older than the one at the front; and it is so whenever the samples of its
admissions came in order. -/
theorem allow_iff_remaining_iff (c : Config) (id : String) (events : List Event) :
    (∀ now, ((after c events).allow c now id).1 = true →
      0 < (after c events).remaining c now id) ∧
    (∀ now, (((after c events).allow c now id).1 = true ↔
        0 < (after c events).remaining c now id) ↔
      ¬ Hidden c ((after c events).admitted id) now) ∧
    ((∀ now, ((after c events).allow c now id).1 = true ↔
        0 < (after c events).remaining c now id) ↔
      ((after c events).admitted id).length < c.maxRequests.toNat ∨ c.window.nanos = 0 ∨
        ∀ first, ((after c events).admitted id).head? = some first →
          ∀ instant ∈ (after c events).admitted id, first ≤ instant) ∧
    ((admissions c id events).Pairwise (· ≤ ·) →
      ∀ now, ((after c events).allow c now id).1 = true ↔
        0 < (after c events).remaining c now id) := by
  have bounded := length_admitted_le c id events
  have agree : ∀ now, (((after c events).allow c now id).1 = true ↔
      0 < (after c events).remaining c now id) ↔
      ¬ Hidden c ((after c events).admitted id) now := by
    intro now
    have sound : ((after c events).allow c now id).1 = true →
        0 < (after c events).remaining c now id := remaining_pos_of_allow
    rw [hidden_iff bounded, ← remaining_pos_iff, ← Nat.not_lt, ← allow_eq_true_iff, not_and,
      not_not]
    exact ⟨fun same => same.mpr, fun granted => ⟨sound, granted⟩⟩
  refine ⟨fun now => remaining_pos_of_allow, agree, ?_, fun ordered now => ?_⟩
  · rw [← forall_not_hidden_iff bounded]
    exact forall_congr' agree
  · have sorted := ordered.sublist (admitted_sublist_admissions c id events)
    exact (agree now).mpr (not_hidden_of_ordered sorted)

/-- A sample of the clock that is a minute old when it reaches the limiter. -/
def lateSample : List Event := [.allow "guest" 60000000000, .allow "guest" 0]

/-- The old admission has expired behind the new one, and is counted all the same: the
request is denied although one admission remains. -/
theorem allow_iff_remaining_lateSample :
    ((after twoPerMinute lateSample).allow twoPerMinute 60000000000 "guest").1 = false ∧
      (after twoPerMinute lateSample).remaining twoPerMinute 60000000000 "guest" = 1 ∧
      Hidden twoPerMinute ((after twoPerMinute lateSample).admitted "guest") 60000000000 := by
  have denied : ((after twoPerMinute lateSample).allow twoPerMinute 60000000000 "guest").1 =
      false := by decide
  have left : (after twoPerMinute lateSample).remaining twoPerMinute 60000000000 "guest" = 1 := by
    decide
  refine ⟨denied, left, ?_⟩
  by_contra visible
  have agree := (allow_iff_remaining_iff twoPerMinute "guest" lateSample).2.1 60000000000
  have granted := (agree.mpr visible).mpr (by rw [left]; exact Nat.zero_lt_one)
  rw [denied] at granted
  cases granted

end Courier.Limiter
