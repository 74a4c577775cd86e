/-
# Courier.Proofs.Store.Table -- a table that executes statements

What a server is relied on for can be had.  `Table` is a list of rows that are what their
columns demand, no two under one id, and `Table.server` executes statements on it, within
sizes that PostgreSQL documents: a row of an index has to fit on a page three times, and a
message has a length.  Whatever would break the table is refused and changes nothing.
-/
import Courier.Proofs.Store.Codec
import Mathlib.Data.List.Nodup

namespace Courier.Store

set_option autoImplicit false

/-- Whether rows are what the table demands: values that their columns take, and no two rows with
one id. -/
def Legal (rows : List Tuple) : Prop :=
  (∀ row ∈ rows, ∀ column ∈ Column.all, column.takes (row column) = true) ∧
    (rows.map (· .id)).Nodup

instance decidableLegal (rows : List Tuple) : Decidable (Legal rows) :=
  inferInstanceAs (Decidable (_ ∧ _))

/-- The rows of the table. -/
structure Table where
  rows : List Tuple
  legal : Legal rows

namespace Table

def empty : Table where
  rows := []
  legal := by simp [Legal]

/-- The columns that have an index. -/
def indexed : List Column := [.id, .recipient, .status]

/-- The longest text in an index, in bytes, and the longest message. -/
def indexLimit : Nat := 2692
def messageLimit : Nat := 1000000000

/-- Whether a statement with these parameters is within the limits. -/
def admits (statement : Statement) (values : List Value) : Bool :=
  ((statement.assigned.zip values).all fun (column, value) =>
    !indexed.contains column || decide (value.size ≤ indexLimit)) &&
  decide (Value.total values ≤ messageLimit)

/-- Takes rows for those of the table if it may. -/
def commit (t : Table) (refusal : Fault) (rows : List Tuple) (affected : Nat) :
    Except Fault ResultSet × Table :=
  if legal : Legal rows then (.ok ⟨[], affected⟩, ⟨rows, legal⟩) else (.error refusal, t)

/-- What becomes of a statement within the limits. -/
def perform (t : Table) (now : Int) (refusal : Fault) (values : List Value) :
    Statement → Except Fault ResultSet × Table
  | .insert columns =>
      t.commit refusal (t.rows ++ [Tuple.assign (Column.default now) columns values]) 1
  | .select columns key =>
      let found := t.rows.filter (·.hasKey key values.getLast?)
      (.ok ⟨found.map (·.fields columns), found.length⟩, t)
  | .update columns key =>
      t.commit refusal
        (t.rows.map fun row =>
          if row.hasKey key values.getLast? then row.assign columns values else row)
        (t.rows.filter (·.hasKey key values.getLast?)).length
  | .one => (.ok ⟨[[("?column?", .integer 1)]], 1⟩, t)

/-- What the table answers to a statement, and the table after it. -/
def execute (t : Table) (now : Int) (refusal : Fault) (statement : Statement)
    (values : List Value) : Except Fault ResultSet × Table :=
  if statement.accepts values && admits statement values then t.perform now refusal values statement
  else (.error refusal, t)

/-- The table as a server, with the time by its clock and the words of its refusals. -/
def server (now : Int) (refusal : Fault) : Server where
  State := Table
  rows := Table.rows
  execute t := t.execute now refusal
  admits := admits

theorem server_admits (now : Int) (refusal : Fault) : (server now refusal).admits = admits := rfl

end Table

/-! ## Rows and what is assigned to them -/

section Assign

variable {row : Tuple} {columns : List Column} {values : List Value} {column : Column}

theorem assign_all (base : Tuple) : base.assign Column.all (Column.all.map row) = row := by
  funext column
  cases column <;> rfl

theorem assign_of_not_mem (absent : column ∉ columns) :
    row.assign columns values column = row column := by
  have missing : (columns.zip values).lookup column = none := by
    rw [List.lookup_eq_none_iff]
    intro p member
    rw [bne_iff_ne]
    rintro rfl
    exact absent (List.of_mem_zip member).1
  rw [Tuple.assign, missing, Option.getD_none]

/-- A column holds what it held, or a value that is assigned to it. -/
theorem takes_assign (before : column.takes (row column) = true)
    (taken : ∀ p ∈ columns.zip values, p.1.takes p.2 = true) :
    column.takes (row.assign columns values column) = true := by
  unfold Tuple.assign
  cases found : (columns.zip values).lookup column with
  | none => exact before
  | some value =>
      obtain ⟨front, back, split, -⟩ := List.lookup_eq_some_iff.mp found
      exact taken (column, value) (by rw [split]; simp)

theorem mem_zip_append {more : List Column} {p : Column × Value} (member : p ∈ columns.zip values) :
    p ∈ (columns ++ more).zip values := by
  induction columns generalizing values with
  | nil => simp at member
  | cons first columns ih =>
      cases values with
      | nil => simp at member
      | cons value values =>
          rw [List.zip_cons_cons] at member
          rw [List.cons_append, List.zip_cons_cons]
          exact (List.mem_cons.mp member).elim (fun head => head ▸ List.mem_cons_self)
            fun tail => List.mem_cons_of_mem _ (ih tail)

/-- What is assigned has the type of its column. -/
theorem takes_of_accepts {statement : Statement} (accepts : statement.accepts values = true) :
    ∀ p ∈ statement.assigned.zip values, p.1.takes p.2 = true := by
  intro p member
  exact List.all_eq_true.mp (Bool.and_eq_true_iff.mp accepts).2 p (mem_zip_append member)

end Assign

/-! ## Executing statements -/

namespace Table

variable {t : Table} {now : Int} {refusal : Fault} {statement : Statement} {values : List Value}

theorem commit_of_legal {rows : List Tuple} (legal : Legal rows) (affected : Nat) :
    t.commit refusal rows affected = (.ok ⟨[], affected⟩, ⟨rows, legal⟩) := dif_pos legal

/-- Only the table as it was goes with a refusal. -/
theorem commit_of_error {rows : List Tuple} {affected : Nat} {fault : Fault}
    (failed : (t.commit refusal rows affected).1 = .error fault) :
    (t.commit refusal rows affected).2 = t := by
  unfold commit at failed ⊢
  split at failed
  · cases failed
  · rename_i illegal
    rw [dif_neg illegal]

/-- A row whose columns take their values can be added under a new id. -/
theorem legal_concat {row : Tuple} (taken : ∀ column ∈ Column.all, column.takes (row column) = true)
    (new : ∀ other ∈ t.rows, other .id ≠ row .id) : Legal (t.rows ++ [row]) := by
  refine ⟨?_, ?_⟩
  · intro other member
    obtain earlier | last := List.mem_append.mp member
    · exact t.legal.1 other earlier
    · exact List.mem_singleton.mp last ▸ taken
  · rw [List.map_append, List.nodup_append]
    refine ⟨t.legal.2, List.nodup_singleton _, ?_⟩
    simpa using new

/-- A row under an id that is taken is refused. -/
theorem commit_of_duplicate {row : Tuple} {affected : Nat}
    (taken : ∃ other ∈ t.rows, other .id = row .id) :
    t.commit refusal (t.rows ++ [row]) affected = (.error refusal, t) := by
  refine dif_neg ?_
  rintro ⟨-, distinct⟩
  obtain ⟨other, member, same⟩ := taken
  rw [List.map_append, List.nodup_append] at distinct
  exact distinct.2.2 _ (List.mem_map_of_mem member) _ List.mem_cons_self same

/-- Rows may be changed where their id stays. -/
theorem legal_assign {columns : List Column} (named : Tuple → Bool) (kept : .id ∉ columns)
    (taken : ∀ p ∈ columns.zip values, p.1.takes p.2 = true) :
    Legal (t.rows.map fun row => if named row then row.assign columns values else row) := by
  refine ⟨?_, ?_⟩
  · intro row member column inside
    obtain ⟨before, earlier, rfl⟩ := List.mem_map.mp member
    have held := t.legal.1 before earlier column inside
    split
    · exact takes_assign held taken
    · exact held
  · have ids : (t.rows.map fun row => if named row then row.assign columns values else row).map
        (fun row : Tuple => row .id) = t.rows.map (fun row : Tuple => row .id) := by
      rw [List.map_map]
      refine List.map_congr_left fun row _ => ?_
      simp only [Function.comp_apply]
      split
      · exact assign_of_not_mem kept
      · rfl
    rw [ids]
    exact t.legal.2

theorem size_le_total {value : Value} (member : value ∈ values) :
    value.size ≤ Value.total values := by
  induction values with
  | nil => cases member
  | cons first rest ih =>
      unfold Value.total at ih ⊢
      rw [List.foldr_cons]
      cases member with
      | head => exact Nat.le_add_right _ _
      | tail _ later => exact Nat.le_trans (ih later) (Nat.le_add_left _ _)

theorem admits_of_short (short : Value.total values ≤ 2048) : admits statement values = true := by
  have each : ∀ value ∈ values, value.size ≤ 2048 :=
    fun _ member => Nat.le_trans (size_le_total member) short
  unfold admits
  rw [Bool.and_eq_true_iff, List.all_eq_true]
  refine ⟨?_, decide_eq_true (Nat.le_trans short (by decide))⟩
  intro p member
  have size : p.2.size ≤ indexLimit :=
    Nat.le_trans (each p.2 (List.of_mem_zip member).2) (by decide)
  simp [size]

theorem execute_of_error {fault : Fault}
    (failed : (t.execute now refusal statement values).1 = .error fault) :
    (t.execute now refusal statement values).2 = t := by
  unfold execute at failed ⊢
  split
  · rename_i ready
    rw [if_pos ready] at failed
    cases statement with
    | insert columns => exact commit_of_error failed
    | select columns key => rfl
    | update columns key => exact commit_of_error failed
    | one => rfl
  · rfl

theorem execute_of_ready (ready : (server now refusal).Ready statement values) :
    t.execute now refusal statement values = t.perform now refusal values statement :=
  if_pos (Bool.and_eq_true_iff.mpr ready)

theorem execute_of_not_ready (unfit : ¬ (server now refusal).Ready statement values) :
    t.execute now refusal statement values = (.error refusal, t) :=
  if_neg (mt Bool.and_eq_true_iff.mp unfit)

theorem succeeds_of_perform {found : List (List (String × Value))} {affected : Nat} {after : Table}
    (ready : (server now refusal).Ready statement values)
    (performed : t.perform now refusal values statement = (.ok ⟨found, affected⟩, after)) :
    (server now refusal).Succeeds t statement values found affected after.rows := by
  have executed := (execute_of_ready ready).trans performed
  exact ⟨⟨_, congrArg Prod.fst executed, .refl _, rfl⟩,
    .of_eq (congrArg (fun answer => answer.2.rows) executed)⟩

theorem perform_insert (row : Tuple) :
    t.perform now refusal (Column.all.map row) (.insert Column.all) =
      t.commit refusal (t.rows ++ [row]) 1 := by
  rw [perform, assign_all]

theorem mem_zip_all (row : Tuple) (column : Column) :
    (column, row column) ∈ Column.all.zip (Column.all.map row) := by
  rw [List.zip_map_right, List.mem_map]
  exact ⟨(column, column), by cases column <;> decide, rfl⟩

theorem takes_of_accepts_insert {row : Tuple}
    (accepts : Statement.accepts (.insert Column.all) (Column.all.map row) = true)
    (column : Column) : column.takes (row column) = true :=
  takes_of_accepts accepts _ (mem_zip_all row column)

theorem size_le_of_admits_insert {row : Tuple}
    (admitted : admits (.insert Column.all) (Column.all.map row) = true) {column : Column}
    (member : column ∈ indexed) : (row column).size ≤ indexLimit := by
  have each := List.all_eq_true.mp (Bool.and_eq_true_iff.mp admitted).1 _ (mem_zip_all row column)
  simpa [member] using each

/-- **The table executes statements** as a server is relied on to do. -/
theorem server_executes (now : Int) (refusal : Fault) : (server now refusal).Executes where
  short _ _ short := admits_of_short short
  atomic _ _ _ _ failed := .of_eq (congrArg Table.rows (execute_of_error failed))
  insert t row ready new := by
    have legal := legal_concat (fun column _ => takes_of_accepts_insert ready.1 column) new
    exact succeeds_of_perform ready ((perform_insert row).trans (commit_of_legal legal 1))
  duplicate t row taken := by
    refine ⟨refusal, ?_⟩
    by_cases ready : (server now refusal).Ready (.insert Column.all) (Column.all.map row)
    · have performed : perform t now refusal (Column.all.map row) (.insert Column.all) =
          (.error refusal, t) := (perform_insert row).trans (commit_of_duplicate taken)
      exact congrArg Prod.fst ((execute_of_ready ready).trans performed)
    · exact congrArg Prod.fst (execute_of_not_ready ready)
  select t columns key values ready := succeeds_of_perform ready rfl
  update t columns key values ready _ kept := by
    have legal := legal_assign (t := t) (·.hasKey key values.getLast?) kept
      (takes_of_accepts ready.1)
    exact succeeds_of_perform ready (commit_of_legal legal _)
  one t := succeeds_of_perform ⟨rfl, rfl⟩ rfl

end Table

end Courier.Store
