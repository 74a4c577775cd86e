/-
# Courier.Proofs.Duration.Seconds -- how much is lost between nanoseconds and seconds

As seconds a duration is rounded three times: its whole seconds, its nanoseconds over `10 ^ 9`,
and the sum of the two.  `secondUnits` is the magnitude that comes of it, which is never
infinite.

Rounding twice in a row can end elsewhere than rounding once, but not on the other side of a
binary64 number: what is representable and not below the duration is not below its seconds
either (`secondUnits_le`).  So a number of seconds that is less than those of a duration is not
longer than the duration, and it is a length of time (`exists_ofSeconds64?`).  On the whole the
seconds are within two roundings of the duration (`within_secondUnits`).
-/
import Courier.Duration
import Courier.Proofs.Binary64.Accuracy

namespace Courier

set_option autoImplicit false

/-! ## Exact and finite results -/

namespace Binary64

variable {negative : Bool} {num den units : Nat}

theorem perOne_pos : 0 < perOne := by
  unfold perOne
  generalize 1074 = exponent
  exact Nat.pow_pos (by decide)

/-- One is a power of two, and so is what is left of it when one is divided by another. -/
theorem exists_perOne_eq {k : Nat} (small : k ≤ 1074) :
    ∃ shift, perOne = Nat.pow 2 k * Nat.pow 2 shift := by
  unfold perOne
  generalize 1074 = exponent at small
  refine ⟨exponent - k, ?_⟩
  calc Nat.pow 2 exponent = Nat.pow 2 (k + (exponent - k)) := congrArg _ (by omega)
    _ = Nat.pow 2 k * Nat.pow 2 (exponent - k) := Nat.pow_add ..

theorem exists_double_perOne_eq : ∃ shift, 2 * perOne = Nat.pow 2 shift := by
  unfold perOne
  generalize 1074 = exponent
  exact ⟨exponent + 1, by rw [Nat.mul_comm]; exact (Nat.pow_succ ..).symm⟩

theorem representable_pow_mul_perOne (shift : Nat) (small : units ≤ 2 * leadingBit) :
    Representable (units * (Nat.pow 2 shift * perOne)) := by
  unfold perOne
  generalize 1074 = exponent
  have whole := Nat.pow_add 2 shift exponent
  exact whole ▸ representable_mul_pow small (shift + exponent)

/-- Below `2 ^ 1024` nothing is infinite. -/
theorem pow_mul_perOne_lt {shift : Nat} (near : shift < 1024) :
    Nat.pow 2 shift * perOne < overflow := by
  have far : shift + 1074 < 2098 := by omega
  unfold perOne overflow
  generalize 1074 = exponent at far ⊢
  generalize 2098 = limit at far ⊢
  calc Nat.pow 2 shift * Nat.pow 2 exponent
      = Nat.pow 2 (shift + exponent) := (Nat.pow_add 2 shift exponent).symm
    _ < Nat.pow 2 limit := Nat.pow_lt_pow_right (by decide) far

attribute [local irreducible] perOne overflow

theorem representable_mul_perOne (small : units ≤ 2 * leadingBit) :
    Representable (units * perOne) := by
  have whole := representable_pow_mul_perOne 0 small
  rwa [show Nat.pow 2 0 = 1 from rfl, Nat.one_mul] at whole

theorem representable_pow (shift : Nat) : Representable (Nat.pow 2 shift * perOne) := by
  have power : Representable (1 * (Nat.pow 2 shift * perOne)) :=
    representable_pow_mul_perOne shift (by decide)
  rwa [Nat.one_mul] at power

theorem ofRatio_eq_finite (shift : Nat) (positive : 0 < den) (near : shift < 1024)
    (bounded : num ≤ Nat.pow 2 shift * perOne * den) :
    ofRatio negative num den = .finite negative (nearest num den) :=
  if_pos (Nat.lt_of_le_of_lt (nearest_le positive (representable_pow shift) bounded)
    (pow_mul_perOne_lt near))

theorem representable_of_ofRatio (positive : 0 < den) {sign : Bool}
    (finite : ofRatio negative num den = .finite sign units) : Representable units := by
  unfold ofRatio at finite
  dsimp only at finite
  split at finite
  · cases finite
    exact (rounded_nearest positive num).representable
  · cases finite

theorem add_finite (a b : Nat) :
    (finite false a).add (finite false b) = ofRatio false (a + b) 1 := rfl

theorem mul_finite (a b : Nat) :
    (finite false a).mul (finite false b) = ofRatio false (a * b) perOne := rfl

theorem lt_finite (a b : Nat) : (finite false a).lt (finite false b) = decide (a < b) := rfl

theorem div_finite (a : Nat) {b : Nat} (nonzero : b ≠ 0) :
    (finite false a).div (finite false b) = ofRatio false (a * perOne) b := if_neg nonzero

theorem ofNat_eq_finite {n : Nat} (short : n < UInt64.size) :
    ofNat n = .finite false (nearest (n * perOne) 1) := by
  refine ofRatio_eq_finite 64 Nat.one_pos (by decide) ?_
  rw [Nat.mul_one]
  exact Nat.mul_le_mul_right perOne (Nat.le_of_lt short)

theorem nearest_whole {n : Nat} (small : n ≤ 2 * leadingBit) :
    nearest (n * perOne) 1 = n * perOne := by
  have same := nearest_of_representable Nat.one_pos (representable_mul_perOne small)
  rwa [Nat.mul_one] at same

theorem ofNat_eq_whole {n : Nat} (small : n ≤ 2 * leadingBit) :
    ofNat n = .finite false (n * perOne) := by
  have short : n < UInt64.size := Nat.lt_of_le_of_lt small (by decide)
  rw [ofNat_eq_finite short, nearest_whole small]

end Binary64

open Binary64

namespace Duration

attribute [local irreducible] perOne overflow

variable {d : Duration} {units : Nat}

/-! ## Seconds as a magnitude -/

theorem nanos_eq (d : Duration) : d.nanos = d.seconds * 1000000000 + d.subsecond :=
  (Nat.div_add_mod' d.nanos 1000000000).symm

theorem subsecond_lt (d : Duration) : d.subsecond < 1000000000 := Nat.mod_lt _ (by decide)

theorem seconds_lt (d : Duration) : d.seconds < UInt64.size :=
  Nat.div_lt_of_lt_mul (Nat.mul_comm UInt64.size _ ▸ d.nanos_lt)

/-- The whole seconds, rounded. -/
def wholeUnits (d : Duration) : Nat := nearest (d.seconds * perOne) 1

/-- The nanoseconds beyond the whole seconds, rounded. -/
def fractionUnits (d : Duration) : Nat :=
  nearest (d.subsecond * perOne * perOne) (1000000000 * perOne)

/-- The magnitude of a duration in seconds. -/
def secondUnits (d : Duration) : Nat := nearest (d.wholeUnits + d.fractionUnits) 1

theorem billion_pos : 0 < 1000000000 * perOne := Nat.mul_pos (by decide) perOne_pos

theorem fractionUnits_le (representable : Representable units)
    (bounded : d.subsecond * perOne ≤ units * 1000000000) : d.fractionUnits ≤ units := by
  refine nearest_le billion_pos representable ?_
  rw [← Nat.mul_assoc]
  exact Nat.mul_le_mul_right perOne bounded

theorem fractionUnits_le_one (d : Duration) : d.fractionUnits ≤ perOne := by
  have one : Representable (1 * perOne) := representable_mul_perOne (by decide)
  rw [Nat.one_mul] at one
  apply fractionUnits_le one
  rw [Nat.mul_comm]
  exact Nat.mul_le_mul_left perOne (Nat.le_of_lt d.subsecond_lt)

theorem wholeUnits_le (representable : Representable units)
    (bounded : d.seconds * perOne ≤ units) : d.wholeUnits ≤ units :=
  nearest_le Nat.one_pos representable (by rwa [Nat.mul_one])

theorem wholeUnits_le_size (d : Duration) : d.wholeUnits ≤ UInt64.size * perOne :=
  wholeUnits_le (representable_pow 64) (Nat.mul_le_mul_right perOne (Nat.le_of_lt d.seconds_lt))

theorem toSeconds_eq (d : Duration) : d.toSeconds = .finite false d.secondUnits := by
  have whole : Binary64.ofNat d.seconds = .finite false d.wholeUnits :=
    ofNat_eq_finite d.seconds_lt
  have nanos : Binary64.ofNat d.subsecond = .finite false (d.subsecond * perOne) :=
    ofNat_eq_whole (Nat.le_trans (Nat.le_of_lt d.subsecond_lt) (by decide))
  have billion : Binary64.ofNat 1000000000 = .finite false (1000000000 * perOne) :=
    ofNat_eq_whole (by decide)
  have fraction : ofRatio false (d.subsecond * perOne * perOne) (1000000000 * perOne) =
      .finite false d.fractionUnits := by
    refine ofRatio_eq_finite 0 billion_pos (by decide) ?_
    rw [show Nat.pow 2 0 = 1 from rfl, Nat.one_mul, Nat.mul_comm perOne, Nat.mul_assoc,
      Nat.mul_assoc]
    exact Nat.mul_le_mul_right _ (Nat.le_of_lt d.subsecond_lt)
  have sum : ofRatio false (d.wholeUnits + d.fractionUnits) 1 = .finite false d.secondUnits := by
    refine ofRatio_eq_finite 65 Nat.one_pos (by decide) ?_
    have double : Nat.pow 2 65 = UInt64.size + UInt64.size := rfl
    have more : perOne ≤ UInt64.size * perOne := Nat.le_mul_of_pos_left _ (by decide)
    rw [Nat.mul_one, double, Nat.add_mul]
    exact Nat.add_le_add d.wholeUnits_le_size (Nat.le_trans d.fractionUnits_le_one more)
  rw [toSeconds, whole, nanos, billion, div_finite _ billion_pos.ne', fraction, add_finite, sum]

/-! ## No binary64 number is crossed -/

/-- What lies beyond the whole seconds of a representable magnitude is as good as
representable: the fraction of a second stays below it. -/
theorem fractionUnits_le_rest {rest : Nat}
    (representable : Representable (d.seconds * perOne + rest))
    (bounded : d.subsecond * perOne ≤ rest * 1000000000) : d.fractionUnits ≤ rest := by
  by_cases full : perOne ≤ rest
  · exact Nat.le_trans d.fractionUnits_le_one full
  · apply fractionUnits_le _ bounded
    by_cases none : d.seconds = 0
    · rwa [none, Nat.zero_mul, Nat.zero_add] at representable
    · -- a magnitude of one second and more is a multiple of `2 ^ (-52)`, and so is the rest
      obtain ⟨shift, one⟩ := exists_perOne_eq (k := 52) (by decide)
      change perOne = leadingBit * Nat.pow 2 shift at one
      have large : leadingBit * Nat.pow 2 shift ≤ d.seconds * perOne + rest := by
        rw [← one]
        exact Nat.le_trans (Nat.le_mul_of_pos_left _ (Nat.pos_of_ne_zero none))
          (Nat.le_add_right _ _)
      have all := representable.pow_dvd large
      have seconds : Nat.pow 2 shift ∣ d.seconds * perOne := by
        rw [one]
        exact Dvd.dvd.mul_left (Nat.dvd_mul_left _ _) _
      obtain ⟨steps, rfl⟩ := (Nat.dvd_add_right seconds).mp all
      rw [one, Nat.mul_comm leadingBit] at full
      have short : steps < leadingBit := Nat.lt_of_mul_lt_mul_left (Nat.lt_of_not_le full)
      rw [Nat.mul_comm]
      exact representable_mul_pow (by omega) shift

theorem fractionUnits_lt_one (d : Duration) : d.fractionUnits < perOne := by
  obtain ⟨shift, one⟩ := exists_perOne_eq (k := 53) (by decide)
  change perOne = 9007199254740992 * Nat.pow 2 shift at one
  have representable : Representable (9007199254740991 * Nat.pow 2 shift) :=
    representable_mul_pow (by decide) shift
  have positive : 0 < Nat.pow 2 shift := Nat.pow_pos (by decide)
  have short := d.subsecond_lt
  have most : d.fractionUnits ≤ 9007199254740991 * Nat.pow 2 shift := by
    apply fractionUnits_le representable
    have nanos : d.subsecond * perOne ≤ 999999999 * perOne :=
      Nat.mul_le_mul_right perOne (Nat.le_of_lt_succ short)
    omega
  omega

/-- Beyond `2 ^ 53` seconds the nanoseconds are lost. -/
theorem secondUnits_of_large (large : 2 * leadingBit ≤ d.seconds) :
    d.secondUnits = d.wholeUnits := by
  obtain ⟨shift, two⟩ := exists_double_perOne_eq
  have short := d.fractionUnits_lt_one
  have whole : Representable d.wholeUnits := (rounded_nearest Nat.one_pos _).representable
  have sum : Representable d.secondUnits := (rounded_nearest Nat.one_pos _).representable
  have low : leadingBit * Nat.pow 2 shift ≤ d.wholeUnits := by
    apply le_nearest Nat.one_pos ⟨leadingBit, shift, by decide, rfl⟩
    rw [← two, Nat.mul_one, ← Nat.mul_assoc, Nat.mul_comm leadingBit]
    exact Nat.mul_le_mul_right perOne large
  have above : d.wholeUnits ≤ d.secondUnits :=
    le_nearest Nat.one_pos whole (by omega)
  -- both are multiples of two seconds, and less than that apart
  have near : distance (d.wholeUnits + d.fractionUnits) 1 d.secondUnits ≤ _ :=
    (rounded_nearest Nat.one_pos _).closest _ whole
  rw [distance_of_ge (show d.wholeUnits * 1 ≤ _ by omega), distance] at near
  have same : Nat.pow 2 shift ∣ d.secondUnits - d.wholeUnits :=
    Nat.dvd_sub (sum.pow_dvd (Nat.le_trans low above)) (whole.pow_dvd low)
  have apart : d.secondUnits - d.wholeUnits < Nat.pow 2 shift := by
    have moved : ((d.secondUnits * 1 : Nat) : Int) - (d.wholeUnits + d.fractionUnits : Nat) ≤ _ :=
      le_trans (le_abs_self _) near
    omega
  have zero := Nat.eq_zero_of_dvd_of_lt same apart
  omega

/-- What is representable and not below a duration is not below its seconds. -/
theorem secondUnits_le (representable : Representable units)
    (bounded : d.nanos * perOne ≤ units * 1000000000) : d.secondUnits ≤ units := by
  rw [nanos_eq, Nat.add_mul, Nat.mul_right_comm] at bounded
  have seconds : d.seconds * perOne ≤ units := by omega
  obtain ⟨rest, rfl⟩ := Nat.exists_eq_add_of_le seconds
  have fraction : d.subsecond * perOne ≤ rest * 1000000000 := by omega
  rcases Nat.le_total d.seconds (2 * leadingBit) with small | large
  · have whole : d.wholeUnits = d.seconds * perOne := nearest_whole small
    apply nearest_le Nat.one_pos representable
    rw [whole, Nat.mul_one]
    exact Nat.add_le_add_left (fractionUnits_le_rest representable fraction) _
  · rw [secondUnits_of_large large]
    exact wholeUnits_le representable seconds

theorem secondUnits_le_size (d : Duration) : d.secondUnits ≤ UInt64.size * perOne := by
  apply secondUnits_le (representable_pow 64)
  have short := Nat.mul_le_mul_right perOne (Nat.le_of_lt d.nanos_lt)
  rwa [Nat.mul_right_comm] at short

/-! ## Seconds that are a length of time -/

theorem ofParts?_zero {n : Nat} (short : n < limit) : ofParts? 0 n = some (ofNanos n) := by
  have same : 0 * 1000000000 + n = n := by omega
  unfold ofParts? ofNanos
  rw [dif_pos (show 0 * 1000000000 + n < UInt64.size * 1000000000 from same.symm ▸ short),
    dif_pos (show n < UInt64.size * 1000000000 from short)]
  simp only [same]

theorem ofSeconds64?_finite (units : Nat) :
    ofSeconds64? (.finite false units) =
      ofParts? 0 (roundHalfEven (units * 1000000000) perOne) := by
  simp only [ofSeconds64?, Bool.false_and, Bool.false_eq_true, if_false]

/-- A magnitude that is not above a duration is a length of time, and not a longer one. -/
theorem exists_ofSeconds64? (bounded : units * 1000000000 ≤ d.nanos * perOne) :
    ∃ e, ofSeconds64? (.finite false units) = some e ∧
      e.nanos = roundHalfEven (units * 1000000000) perOne ∧ e.nanos ≤ d.nanos := by
  have below : roundHalfEven (units * 1000000000) perOne ≤ d.nanos :=
    roundHalfEven_le perOne_pos bounded
  have short : roundHalfEven (units * 1000000000) perOne < limit :=
    Nat.lt_of_le_of_lt below d.nanos_lt
  have same := nanos_ofNanos short
  exact ⟨_, (ofSeconds64?_finite units).trans (ofParts?_zero short), same, same.trans_le below⟩

/-! ## Within two roundings -/

theorem normal_units (n : Nat) : Normal (n * perOne) 1 := by
  rcases Nat.eq_zero_or_pos n with rfl | positive
  · exact .inl (Nat.zero_mul _)
  · obtain ⟨shift, one⟩ := exists_perOne_eq (k := 52) (by decide)
    right
    rw [one, Nat.mul_one]
    exact Nat.le_trans (Nat.le_mul_of_pos_right _ (Nat.pow_pos (by decide)))
      (Nat.le_mul_of_pos_left _ positive)

theorem normal_fraction (n : Nat) : Normal (n * perOne * perOne) (1000000000 * perOne) := by
  rcases Nat.eq_zero_or_pos n with rfl | positive
  · left
    rw [Nat.zero_mul, Nat.zero_mul]
  · obtain ⟨shift, one⟩ := exists_perOne_eq (k := 90) (by decide)
    right
    rw [← Nat.mul_assoc]
    refine Nat.mul_le_mul_right perOne ?_
    have small : leadingBit * 1000000000 ≤ Nat.pow 2 90 := by decide
    calc leadingBit * 1000000000 ≤ Nat.pow 2 90 * Nat.pow 2 shift :=
          Nat.le_trans small (Nat.le_mul_of_pos_right _ (Nat.pow_pos (by decide)))
      _ = perOne := one.symm
      _ ≤ n * perOne := Nat.le_mul_of_pos_left _ positive

theorem normal_secondUnits (d : Duration) : Normal d.secondUnits 1 :=
  normal_nearest Nat.one_pos
    ((normal_nearest Nat.one_pos (normal_units _)).add
      (normal_nearest billion_pos (normal_fraction _)))

/-- The seconds of a duration come from two roundings. -/
theorem within_secondUnits (d : Duration) :
    Within 2 (d.nanos * perOne / 1000000000 : ℚ) d.secondUnits := by
  have one : (perOne : ℚ) ≠ 0 := by exact_mod_cast perOne_pos.ne'
  have whole := within_nearest Nat.one_pos (normal_units d.seconds)
  have fraction := within_nearest billion_pos (normal_fraction d.subsecond)
  have sum : Within 1 ((d.wholeUnits + d.fractionUnits : Nat) / (1 : Nat)) d.secondUnits :=
    within_nearest Nat.one_pos ((normal_nearest Nat.one_pos (normal_units _)).add
      (normal_nearest billion_pos (normal_fraction _)))
  have both := whole.add fraction
  have exact : ((d.seconds * perOne : Nat) : ℚ) / (1 : Nat) +
      ((d.subsecond * perOne * perOne : Nat) : ℚ) / (1000000000 * perOne : Nat) =
      d.nanos * perOne / 1000000000 := by
    rw [nanos_eq]
    push_cast
    field_simp
  rw [exact] at both
  refine Within.trans (k := 1) both ?_
  rwa [Nat.cast_add, Nat.cast_one, div_one] at sum

end Duration

end Courier
