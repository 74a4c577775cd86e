/-
# Courier.Proofs.Binary64.Rounding -- what rounding to binary64 does to a quotient

Magnitudes are whole numbers of the smallest unit, and those of binary64 are the
`Representable` ones: a significand of 53 bits, shifted.  Between one power of two and the next
they lie `spacing` apart.

`nearest num den` is the representable magnitude nearest to `num / den`, and of two that are
equally near the one with the even significand (`rounded_nearest`).  What proofs about
arithmetic use is less than that: rounding crosses no representable magnitude (`nearest_le`,
`le_nearest`), it moves no quotient further than the nearest representable one is (`closest`),
and it moves a quotient that is not below `leadingBit` units by at most one part in `2 ^ 53`
(`nearest_error`).
-/
import Courier.Binary64
import Mathlib.Algebra.Order.Group.Unbundled.Abs
import Mathlib.Tactic.Linarith
import Mathlib.Tactic.Ring

namespace Courier

set_option autoImplicit false

/-! ## Quotients rounded to whole numbers -/

section Quotient

variable {num den k : Nat}

/-- Rounding goes down to the whole part of the quotient or up to the next number, and never
further than half a step. -/
theorem roundHalfEven_cases (num den : Nat) :
    (roundHalfEven num den = num / den ∧ 2 * (num % den) ≤ den) ∨
      (roundHalfEven num den = num / den + 1 ∧ den ≤ 2 * (num % den)) := by
  unfold roundHalfEven
  by_cases below : 2 * (num % den) < den
  · exact .inl ⟨if_pos below, Nat.le_of_lt below⟩
  · by_cases half : 2 * (num % den) = den
    · simp only [if_neg below, if_pos half]
      rcases Nat.mod_two_eq_zero_or_one (num / den) with even | odd
      · exact .inl ⟨by rw [even, Nat.add_zero], half.le⟩
      · exact .inr ⟨by rw [odd], half.ge⟩
    · exact .inr ⟨(if_neg below).trans (if_neg half), Nat.le_of_not_lt below⟩

theorem roundHalfEven_near (positive : 0 < den) (num : Nat) :
    2 * num ≤ 2 * (roundHalfEven num den * den) + den ∧
      2 * (roundHalfEven num den * den) ≤ 2 * num + den := by
  have split : num / den * den + num % den = num := Nat.div_add_mod' num den
  rcases roundHalfEven_cases num den with ⟨down, near⟩ | ⟨up, near⟩
  · rw [down]
    generalize num / den * den = whole at split
    omega
  · rw [up, Nat.add_mul, Nat.one_mul]
    have short : num % den < den := Nat.mod_lt num positive
    generalize num / den * den = whole at split
    omega

theorem roundHalfEven_le (positive : 0 < den) (bounded : num ≤ k * den) :
    roundHalfEven num den ≤ k := by
  have near := (roundHalfEven_near positive num).2
  by_contra more
  have next : (k + 1) * den ≤ roundHalfEven num den * den :=
    Nat.mul_le_mul_right den (by omega)
  rw [Nat.add_mul] at next
  omega

theorem le_roundHalfEven (positive : 0 < den) (bounded : k * den ≤ num) :
    k ≤ roundHalfEven num den := by
  have near := (roundHalfEven_near positive num).1
  by_contra less
  have next : (roundHalfEven num den + 1) * den ≤ k * den :=
    Nat.mul_le_mul_right den (by omega)
  rw [Nat.add_mul] at next
  omega

/-- A quotient less than half a step away from a whole number is rounded to it. -/
theorem roundHalfEven_eq (below : 2 * num < 2 * (k * den) + den)
    (above : 2 * (k * den) < 2 * num + den) : roundHalfEven num den = k := by
  have positive : 0 < den := by omega
  obtain ⟨low, high⟩ := roundHalfEven_near positive num
  apply Nat.le_antisymm
  · by_contra more
    have next : (k + 1) * den ≤ roundHalfEven num den * den :=
      Nat.mul_le_mul_right den (by omega)
    rw [Nat.add_mul] at next
    omega
  · by_contra less
    have next : (roundHalfEven num den + 1) * den ≤ k * den :=
      Nat.mul_le_mul_right den (by omega)
    rw [Nat.add_mul] at next
    omega

/-- Of two whole numbers equally near, the even one is taken. -/
theorem roundHalfEven_even (tie : 2 * (num % den) = den) :
    roundHalfEven num den % 2 = 0 := by
  unfold roundHalfEven
  simp only [if_neg (Nat.not_lt.mpr tie.ge), if_pos tie]
  omega

end Quotient

namespace Binary64

/-! ## Representable magnitudes -/

/-- A whole number of the smallest unit that takes a significand of 53 bits at most. -/
def Representable (units : Nat) : Prop :=
  ∃ significand shift, significand < 2 * leadingBit ∧ units = significand * Nat.pow 2 shift

/-- How far apart representable magnitudes are about `units`. -/
def spacing (units : Nat) : Nat := Nat.pow 2 (units.log2 - 52)

variable {num den units : Nat}

theorem representable_of_lt (small : units < 2 * leadingBit) : Representable units :=
  ⟨units, 0, small, (Nat.mul_one units).symm⟩

theorem representable_mul_pow (small : units ≤ 2 * leadingBit) (shift : Nat) :
    Representable (units * Nat.pow 2 shift) := by
  rcases Nat.lt_or_eq_of_le small with below | same
  · exact ⟨units, shift, below, rfl⟩
  · refine ⟨leadingBit, shift + 1, by decide, ?_⟩
    rw [same, Nat.mul_comm 2, Nat.mul_assoc, Nat.mul_comm 2]
    exact congrArg _ (Nat.pow_succ ..).symm

theorem spacing_pos (units : Nat) : 0 < spacing units := Nat.pow_pos (by decide)

theorem spacing_eq_one_or (units : Nat) :
    spacing units = 1 ∨ leadingBit * spacing units ≤ units := by
  by_cases small : units.log2 ≤ 52
  · exact .inl (congrArg (Nat.pow 2) (Nat.sub_eq_zero_of_le small))
  · right
    have nonzero : units ≠ 0 := by
      rintro rfl
      exact small (by decide)
    calc leadingBit * spacing units
        = Nat.pow 2 (52 + (units.log2 - 52)) := (Nat.pow_add 2 52 _).symm
      _ = Nat.pow 2 units.log2 := congrArg (Nat.pow 2) (by omega)
      _ ≤ units := Nat.log2_self_le nonzero

theorem lt_spacing (units : Nat) : units < 2 * leadingBit * spacing units := by
  calc units < Nat.pow 2 (units.log2 + 1) := Nat.lt_log2_self
    _ ≤ Nat.pow 2 (53 + (units.log2 - 52)) := Nat.pow_le_pow_right (by decide) (by omega)
    _ = 2 * leadingBit * spacing units := Nat.pow_add 2 53 _

/-- A representable magnitude of at least `leadingBit` steps is a whole number of them. -/
theorem Representable.pow_dvd (representable : Representable units) {shift : Nat}
    (large : leadingBit * Nat.pow 2 shift ≤ units) : Nat.pow 2 shift ∣ units := by
  obtain ⟨significand, own, small, rfl⟩ := representable
  by_cases fine : shift ≤ own
  · exact Dvd.dvd.mul_left (Nat.pow_dvd_pow 2 fine) significand
  · exfalso
    have coarse : Nat.pow 2 own * 2 ≤ Nat.pow 2 shift :=
      Nat.pow_le_pow_right (n := 2) (by decide) (show own + 1 ≤ shift by omega)
    have one : 0 < Nat.pow 2 own := Nat.pow_pos (by decide)
    have short : significand * Nat.pow 2 own < 2 * leadingBit * Nat.pow 2 own :=
      Nat.mul_lt_mul_of_pos_right small one
    have long : leadingBit * (Nat.pow 2 own * 2) ≤ leadingBit * Nat.pow 2 shift :=
      Nat.mul_le_mul_left leadingBit coarse
    rw [Nat.mul_comm 2 leadingBit, Nat.mul_assoc, Nat.mul_comm 2] at short
    omega

/-- About a quotient, what is representable is a whole number of steps, or lies below the
power of two under it. -/
theorem Representable.dvd_or_lt (representable : Representable units) (about : Nat) :
    spacing about ∣ units ∨
      (units < leadingBit * spacing about ∧ leadingBit * spacing about ≤ about) := by
  rcases spacing_eq_one_or about with one | large
  · rw [one]
    exact .inl (Nat.one_dvd units)
  · by_cases below : units < leadingBit * spacing about
    · exact .inr ⟨below, large⟩
    · exact .inl (representable.pow_dvd (Nat.le_of_not_lt below))

/-! ## Rounding crosses nothing representable -/

theorem nearest_eq (num den : Nat) :
    nearest num den =
      roundHalfEven num (den * spacing (num / den)) * spacing (num / den) := rfl

/-- The width of a step, in terms of the denominator. -/
theorem step_pos (positive : 0 < den) (num : Nat) : 0 < den * spacing (num / den) :=
  Nat.mul_pos positive (spacing_pos _)

theorem mul_step (k den spaces : Nat) : k * (den * spaces) = k * spaces * den := by ring

theorem nearest_le (positive : 0 < den) (representable : Representable units)
    (bounded : num ≤ units * den) : nearest num den ≤ units := by
  rcases representable.dvd_or_lt (num / den) with whole | ⟨below, large⟩
  · obtain ⟨k, rfl⟩ := whole
    rw [nearest_eq, Nat.mul_comm (spacing _) k]
    refine Nat.mul_le_mul_right _ (roundHalfEven_le (step_pos positive num) ?_)
    rw [mul_step, Nat.mul_comm k]
    exact bounded
  · have quotient : num / den ≤ units := Nat.div_le_of_le_mul (by rwa [Nat.mul_comm])
    omega

theorem le_nearest (positive : 0 < den) (representable : Representable units)
    (bounded : units * den ≤ num) : units ≤ nearest num den := by
  rw [nearest_eq]
  rcases representable.dvd_or_lt (num / den) with whole | ⟨below, large⟩
  · obtain ⟨k, rfl⟩ := whole
    rw [Nat.mul_comm (spacing _) k]
    refine Nat.mul_le_mul_right _ (le_roundHalfEven (step_pos positive num) ?_)
    rw [mul_step, Nat.mul_comm k]
    exact bounded
  · have leading : leadingBit ≤ roundHalfEven num (den * spacing (num / den)) := by
      apply le_roundHalfEven (step_pos positive num)
      rw [mul_step]
      exact (Nat.le_div_iff_mul_le positive).mp large
    exact Nat.le_trans (Nat.le_of_lt below) (Nat.mul_le_mul_right _ leading)

/-- What is representable is rounded to itself. -/
theorem nearest_of_representable (positive : 0 < den) (representable : Representable units) :
    nearest (units * den) den = units :=
  Nat.le_antisymm (nearest_le positive representable (Nat.le_refl _))
    (le_nearest positive representable (Nat.le_refl _))

theorem nearest_of_zero (positive : 0 < den) : nearest 0 den = 0 := by
  have zero : Representable 0 := representable_of_lt (by decide)
  have same := nearest_of_representable positive zero
  rwa [Nat.zero_mul] at same

theorem representable_nearest (positive : 0 < den) (num : Nat) :
    Representable (nearest num den) := by
  rw [nearest_eq]
  refine representable_mul_pow (roundHalfEven_le (step_pos positive num) ?_) _
  rw [mul_step]
  have above := (Nat.div_lt_iff_lt_mul positive).mp (lt_spacing (num / den))
  exact Nat.le_of_lt above

/-! ## How far a quotient is moved -/

theorem nearest_near (positive : 0 < den) (num : Nat) :
    2 * num ≤ 2 * (nearest num den * den) + den * spacing (num / den) ∧
      2 * (nearest num den * den) ≤ 2 * num + den * spacing (num / den) := by
  rw [nearest_eq, ← mul_step]
  exact roundHalfEven_near (step_pos positive num) num

/-- A quotient of `leadingBit` units or more is moved by one part in `2 ^ 53` at most. -/
theorem nearest_error (positive : 0 < den) (large : leadingBit * den ≤ num) :
    2 * leadingBit * num ≤ 2 * leadingBit * (nearest num den * den) + num ∧
      2 * leadingBit * (nearest num den * den) ≤ 2 * leadingBit * num + num := by
  obtain ⟨low, high⟩ := nearest_near positive num
  have step : leadingBit * (den * spacing (num / den)) ≤ num := by
    rcases spacing_eq_one_or (num / den) with one | above
    · rwa [one, Nat.mul_one]
    · rw [mul_step]
      exact (Nat.le_div_iff_mul_le positive).mp above
  unfold leadingBit at *
  omega

/-- Distance of a magnitude from a quotient, times the denominator. -/
def distance (num den units : Nat) : Int := |((units * den : Nat) : Int) - num|

theorem distance_of_le (above : num ≤ units * den) :
    distance num den units = (units * den : Nat) - num :=
  abs_of_nonneg (by omega)

theorem distance_of_ge (below : units * den ≤ num) :
    distance num den units = num - (units * den : Nat) := by
  rw [distance, abs_sub_comm]
  exact abs_of_nonneg (by omega)

/-- What is representable and not above a quotient that was rounded up is a step below the
result. -/
theorem Representable.add_spacing_le (positive : 0 < den) (representable : Representable units)
    (below : units * den ≤ num) (up : num < nearest num den * den) :
    units + spacing (num / den) ≤ nearest num den := by
  have less : units < nearest num den :=
    Nat.lt_of_mul_lt_mul_right (Nat.lt_of_le_of_lt below up)
  rw [nearest_eq] at less up ⊢
  generalize roundHalfEven num (den * spacing (num / den)) = k at less up ⊢
  rcases representable.dvd_or_lt (num / den) with ⟨j, rfl⟩ | ⟨small, large⟩
  · rw [Nat.mul_comm _ j] at less ⊢
    have fewer : j + 1 ≤ k := Nat.lt_of_mul_lt_mul_right less
    calc j * spacing (num / den) + spacing (num / den)
        = (j + 1) * spacing (num / den) := (Nat.succ_mul j _).symm
      _ ≤ k * spacing (num / den) := Nat.mul_le_mul_right _ fewer
  · have leading : leadingBit * spacing (num / den) * den ≤ num :=
      (Nat.le_div_iff_mul_le positive).mp large
    have fewer : leadingBit + 1 ≤ k := by
      apply Nat.lt_of_mul_lt_mul_right (a := spacing (num / den))
      exact Nat.lt_of_mul_lt_mul_right (Nat.lt_of_le_of_lt leading up)
    calc units + spacing (num / den)
        ≤ (leadingBit + 1) * spacing (num / den) := by
          rw [Nat.add_mul, Nat.one_mul]
          omega
      _ ≤ k * spacing (num / den) := Nat.mul_le_mul_right _ fewer

/-- What is representable and not below a quotient that was rounded down is a step above the
result. -/
theorem Representable.spacing_add_le (representable : Representable units)
    (above : num ≤ units * den) (down : nearest num den * den < num) :
    nearest num den + spacing (num / den) ≤ units := by
  have more : nearest num den < units :=
    Nat.lt_of_mul_lt_mul_right (Nat.lt_of_lt_of_le down above)
  rw [nearest_eq] at more ⊢
  generalize roundHalfEven num (den * spacing (num / den)) = k at more ⊢
  rcases representable.dvd_or_lt (num / den) with ⟨j, rfl⟩ | ⟨small, large⟩
  · rw [Nat.mul_comm _ j] at more ⊢
    have fewer : k + 1 ≤ j := Nat.lt_of_mul_lt_mul_right more
    calc k * spacing (num / den) + spacing (num / den)
        = (k + 1) * spacing (num / den) := (Nat.succ_mul k _).symm
      _ ≤ j * spacing (num / den) := Nat.mul_le_mul_right _ fewer
  · have quotient : num / den ≤ units := Nat.div_le_of_le_mul (by rwa [Nat.mul_comm])
    omega

/-- A quotient is moved by half a step at most. -/
theorem distance_nearest (positive : 0 < den) (num : Nat) :
    2 * distance num den (nearest num den) ≤ (den * spacing (num / den) : Nat) := by
  obtain ⟨low, high⟩ := nearest_near positive num
  rcases Nat.le_total (nearest num den * den) num with down | up
  · rw [distance_of_ge down]
    omega
  · rw [distance_of_le up]
    omega

/-- What else is representable is further away, or it is on the other side of the quotient
and a step apart. -/
theorem farther_or_across (positive : 0 < den) (representable : Representable units)
    (other : units ≠ nearest num den) :
    distance num den (nearest num den) < distance num den units ∨
      ((den * spacing (num / den) : Nat) : Int) ≤
        distance num den units + distance num den (nearest num den) := by
  have apart : units * den ≠ nearest num den * den :=
    fun same => other (Nat.eq_of_mul_eq_mul_right positive same)
  rcases Nat.le_total (units * den) num with below | above
  · rw [distance_of_ge below]
    by_cases up : num < nearest num den * den
    · right
      have step := Nat.mul_le_mul_right den (representable.add_spacing_le positive below up)
      rw [distance_of_le (Nat.le_of_lt up)]
      rw [Nat.add_mul, Nat.mul_comm (spacing _)] at step
      omega
    · left
      have floor := Nat.mul_le_mul_right den (le_nearest positive representable below)
      rw [distance_of_ge (Nat.le_of_not_lt up)]
      omega
  · rw [distance_of_le above]
    by_cases down : nearest num den * den < num
    · right
      have step := Nat.mul_le_mul_right den (representable.spacing_add_le above down)
      rw [distance_of_ge (Nat.le_of_lt down)]
      rw [Nat.add_mul, Nat.mul_comm (spacing _)] at step
      omega
    · left
      have ceiling := Nat.mul_le_mul_right den (nearest_le positive representable above)
      rw [distance_of_le (Nat.le_of_not_lt down)]
      omega

/-- Nothing representable is nearer to a quotient than what it is rounded to. -/
theorem closest (positive : 0 < den) (representable : Representable units) :
    distance num den (nearest num den) ≤ distance num den units := by
  by_cases same : units = nearest num den
  · rw [same]
  · have half := distance_nearest positive num
    rcases farther_or_across positive representable same with farther | across
    · exact Int.le_of_lt farther
    · omega

/-! ## Two magnitudes equally near -/

/-- A quotient as far from another representable magnitude as from the one it is rounded to is
half a step away from it. -/
theorem half_of_tie (positive : 0 < den) (representable : Representable units)
    (other : units ≠ nearest num den)
    (tie : distance num den units = distance num den (nearest num den)) :
    2 * (nearest num den * den) = 2 * num + den * spacing (num / den) ∨
      2 * num = 2 * (nearest num den * den) + den * spacing (num / den) := by
  have half : 2 * distance num den (nearest num den) = (den * spacing (num / den) : Nat) := by
    have short := distance_nearest positive num
    rcases farther_or_across positive representable other with farther | across
    · exact absurd tie (Int.ne_of_gt farther)
    · omega
  rcases Nat.le_total (nearest num den * den) num with down | up
  · right
    rw [distance_of_ge down] at half
    omega
  · left
    rw [distance_of_le up] at half
    omega

/-- Of two representable magnitudes equally near, the one with the even significand is
taken. -/
theorem even_of_tie (positive : 0 < den) (representable : Representable units)
    (other : units ≠ nearest num den)
    (tie : distance num den units = distance num den (nearest num den)) :
    2 * spacing (num / den) ∣ nearest num den := by
  have half := half_of_tie positive representable other tie
  have wide : 0 < den * spacing (num / den) := step_pos positive num
  rw [nearest_eq] at half ⊢
  rw [← mul_step] at half
  refine Nat.mul_dvd_mul (Nat.dvd_of_mod_eq_zero (roundHalfEven_even ?_)) (Nat.dvd_refl _)
  have split : num / (den * spacing (num / den)) * (den * spacing (num / den)) +
      num % (den * spacing (num / den)) = num := Nat.div_add_mod' _ _
  have short := Nat.mod_lt num wide
  rcases roundHalfEven_cases num (den * spacing (num / den)) with ⟨down, -⟩ | ⟨up, -⟩
  · rw [down] at half
    generalize num / (den * spacing (num / den)) * (den * spacing (num / den)) = whole at *
    omega
  · rw [up, Nat.add_mul, Nat.one_mul] at half
    generalize num / (den * spacing (num / den)) * (den * spacing (num / den)) = whole at *
    omega

/-- What rounding a quotient to binary64 has to answer. -/
structure Rounded (num den result : Nat) : Prop where
  representable : Representable result
  closest : ∀ units, Representable units → distance num den result ≤ distance num den units
  /-- A tie goes to the even significand. -/
  even : ∀ units, Representable units → units ≠ result →
    distance num den units = distance num den result → 2 * spacing (num / den) ∣ result

/-- **Quotients are rounded to the nearest, ties to even.** -/
theorem rounded_nearest (positive : 0 < den) (num : Nat) :
    Rounded num den (nearest num den) where
  representable := representable_nearest positive num
  closest := fun _ representable => closest positive representable
  even := fun _ representable => even_of_tie positive representable

end Binary64

end Courier
