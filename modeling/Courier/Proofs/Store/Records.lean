/-
# Courier.Proofs.Store.Records -- what writing does to the records

A record is created under an id that no record has, and stands last.  Until another
one is created, changing the record with that id changes the last one, whatever the
change, and no other.  While ids are distinct an id has one record at most, and a change
that keeps ids keeps them so.
-/
import Courier.Store
import Mathlib.Data.List.Nodup

namespace Courier.Store

set_option autoImplicit false

variable {s after : Store} {id : String} {n : Notification}

theorem find?_eq_none_iff : s.find? id = none ↔ ∀ other ∈ s.records, other.id ≠ id := by
  unfold find?
  simp only [List.find?_eq_none, beq_iff_eq, ne_eq]

theorem mem_of_find? (found : s.find? id = some n) : n ∈ s.records ∧ n.id = id := by
  unfold find? at found
  exact ⟨List.mem_of_find?_eq_some found, by simpa using List.find?_some found⟩

theorem create_eq_ok_iff :
    s.create n = .ok after ↔ s.find? n.id = none ∧ after = ⟨s.records ++ [n]⟩ := by
  unfold create
  cases found : s.find? n.id with
  | none => simp [eq_comm]
  | some other => simp

theorem find?_concat (absent : s.find? n.id = none) :
    (⟨s.records ++ [n]⟩ : Store).find? n.id = some n := by
  unfold find? at absent ⊢
  rw [List.find?_append, absent]
  simp

variable {change : Notification → Notification}

/-- The records with the one of an id changed. -/
def changed (s : Store) (id : String) (change : Notification → Notification) :
    List Notification :=
  s.records.map fun n => if n.id == id then change n else n

/-- Changing the record with an id that none has changes nothing. -/
theorem changed_of_absent (absent : s.find? id = none) : changed s id change = s.records := by
  refine (List.map_congr_left ?_).trans (List.map_id s.records)
  intro n member
  simp [find?_eq_none_iff.mp absent n member]

/-- Changing the record that was created last changes no other. -/
theorem update_concat (absent : s.find? n.id = none) (change : Notification → Notification) :
    (⟨s.records ++ [n]⟩ : Store).update n.id change = .ok ⟨s.records ++ [change n]⟩ := by
  have others : s.records.map (fun other => if other.id == n.id then change other else other) =
      s.records := changed_of_absent absent
  unfold update
  rw [find?_concat absent]
  simp only [List.map_append, List.map_singleton, beq_self_eq_true, if_true, others]

/-! ## Records with distinct ids -/

/-- Ids stay distinct when a record is created. -/
theorem distinct_concat (distinct : (s.records.map (·.id)).Nodup)
    (absent : s.find? n.id = none) : ((s.records ++ [n]).map (·.id)).Nodup := by
  rw [List.map_append, List.nodup_append]
  refine ⟨distinct, List.nodup_singleton _, ?_⟩
  simpa using find?_eq_none_iff.mp absent

theorem filter_of_absent (absent : s.find? id = none) : s.records.filter (·.id == id) = [] := by
  rw [← List.head?_eq_none_iff, List.head?_filter]
  exact absent

theorem filter_of_find? (distinct : (s.records.map (·.id)).Nodup) (found : s.find? id = some n) :
    s.records.filter (·.id == id) = [n] := by
  have first : (s.records.filter (·.id == id)).head? = some n := by
    rw [List.head?_filter]
    exact found
  have few : (s.records.filter (·.id == id)).length ≤ 1 := by
    have once := List.nodup_iff_count_le_one.mp distinct id
    rwa [List.count, List.countP_map, List.countP_eq_length_filter] at once
  cases cut : s.records.filter (·.id == id) with
  | nil =>
      rw [cut] at first
      cases first
  | cons m rest =>
      rw [cut] at first few
      cases first
      rw [List.length_eq_zero_iff.mp (Nat.le_zero.mp (Nat.le_of_succ_le_succ few))]

theorem update_of_find? (found : s.find? id = some n) :
    s.update id change = .ok ⟨changed s id change⟩ := by
  unfold update
  rw [found]
  rfl

theorem ids_changed (s : Store) (kept : ∀ n, (change n).id = n.id) :
    (changed s id change).map (·.id) = s.records.map (·.id) := by
  unfold changed
  rw [List.map_map]
  refine List.map_congr_left ?_
  intro n _
  simp only [Function.comp_apply]
  split
  · exact kept n
  · rfl

/-- What holds of the records still holds if it holds of every changed one. -/
theorem forall_mem_changed {p : Notification → Prop} (before : ∀ n ∈ s.records, p n)
    (kept : ∀ n, p n → p (change n)) : ∀ n ∈ changed s id change, p n := by
  intro n member
  obtain ⟨earlier, inside, rfl⟩ := List.mem_map.mp member
  split
  · exact kept earlier (before earlier inside)
  · exact before earlier inside

end Courier.Store
