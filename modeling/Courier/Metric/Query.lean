/-
# Courier.Metric.Query -- what a list of metrics adds to a family

A family's numbers are told apart by their labels, and a question about them names some
labels and leaves the others open: the breaker's calls that ended in a `success`, in
whatever state.  `numbers` are the numbers that a list of metrics records under the
labels of such a question, oldest first.  A counter grows by their `total`; a
histogram's sum grows by their `total` and its count by their `count`.
-/
import Courier.Metric.Exposition

namespace Courier.Metric

set_option autoImplicit false

/-- Whether a number belongs to a family and has these labels, and maybe others. -/
def Observation.isOf (f : Family) (labels : List (String × String)) (o : Observation) : Bool :=
  o.family.name == f.name && labels.all o.labels.contains

/-- The numbers recorded in a family under these labels. -/
def numbers (f : Family) (labels : List (String × String)) (metrics : List Metric) : List Nat :=
  ((metrics.map observation).filter (Observation.isOf f labels)).map (·.value)

def total (f : Family) (labels : List (String × String)) (metrics : List Metric) : Nat :=
  (numbers f labels metrics).foldr (· + ·) 0

def count (f : Family) (labels : List (String × String)) (metrics : List Metric) : Nat :=
  (numbers f labels metrics).length

variable (f : Family) (labels : List (String × String))

@[simp] theorem numbers_nil : numbers f labels [] = [] := rfl

@[simp] theorem numbers_append (metrics more : List Metric) :
    numbers f labels (metrics ++ more) = numbers f labels metrics ++ numbers f labels more := by
  simp [numbers]

/-- Metrics of other families add nothing to this one. -/
theorem numbers_of_other {metrics : List Metric}
    (other : ∀ m ∈ metrics, m.observation.family.name ≠ f.name) :
    numbers f labels metrics = [] := by
  have none : (metrics.map observation).filter (Observation.isOf f labels) = [] := by
    rw [List.filter_eq_nil_iff]
    intro o member found
    obtain ⟨m, recorded, rfl⟩ := List.mem_map.mp member
    have same : m.observation.family.name = f.name := by
      unfold Observation.isOf at found
      simp only [Bool.and_eq_true, beq_iff_eq] at found
      exact found.1
    exact other m recorded same
  unfold numbers
  rw [none, List.map_nil]

@[simp] theorem total_nil : total f labels [] = 0 := rfl

@[simp] theorem total_append (metrics more : List Metric) :
    total f labels (metrics ++ more) = total f labels metrics + total f labels more := by
  unfold total
  rw [numbers_append]
  induction numbers f labels metrics with
  | nil => simp
  | cons n rest ih => simp [ih, Nat.add_assoc]

theorem total_cons (m : Metric) (metrics : List Metric) :
    total f labels (m :: metrics) =
      (if m.observation.isOf f labels then m.observation.value else 0) +
        total f labels metrics := by
  unfold total numbers
  by_cases found : m.observation.isOf f labels = true <;> simp [found]

/-- The total of a counter whose metrics are those that `pick` finds something in, each of
them counting one if it fits the question. -/
theorem total_eq_countP {β : Type} (pick : Metric → Option β) (fits : β → Bool)
    (alone : ∀ m : Metric, (if m.observation.isOf f labels then m.observation.value else 0) =
      (pick m).elim 0 fun found => if fits found then 1 else 0) (metrics : List Metric) :
    total f labels metrics = (metrics.filterMap pick).countP fits := by
  induction metrics with
  | nil => rfl
  | cons m metrics ih =>
      rw [total_cons, alone, ih, List.filterMap_cons]
      cases pick m with
      | none => exact Nat.zero_add _
      | some found => rw [List.countP_cons, Nat.add_comm]; rfl

@[simp] theorem count_nil : count f labels [] = 0 := rfl

@[simp] theorem count_append (metrics more : List Metric) :
    count f labels (metrics ++ more) = count f labels metrics + count f labels more := by
  simp [count]

/-- The calls of a breaker that succeeded, in whatever state they found it. -/
example :
    total .calls [("result", "success")]
      [.call .closed .success, .call .opened .rejected, .call .halfOpen .success] = 2 := by
  rfl

end Courier.Metric
