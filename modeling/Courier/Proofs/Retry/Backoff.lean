/-
# Courier.Proofs.Retry.Backoff -- the delays are what they should be

The next delay is computed in binary64 seconds: the delay becomes seconds, these are multiplied,
the product is compared with the seconds of the cap, and becomes whole nanoseconds again.

Whatever the factor is, a product that compares as less than the cap is not longer than the cap,
so it is a length of time, and no delay exceeds the cap (`delay_le_maxDelay`).

With a whole factor and a cap of `10 ^ 6` seconds at most nothing is lost on the way: the three
roundings behind a product move it by less than half a nanosecond, and those behind the
comparison do not bring it across the cap, so the delays are the geometric sequence, cut off at
the cap, to the nanosecond (`delay_eq_geometric`).
-/
import Courier.Backoff
import Courier.Proofs.Duration.Seconds

namespace Courier

set_option autoImplicit false

open Binary64

/-! ## Products -/

namespace Binary64

attribute [local irreducible] perOne overflow

/-- A finite product is representable. -/
theorem representable_of_mul {x y : Binary64} {negative : Bool} {units : Nat}
    (product : x.mul y = .finite negative units) : Representable units := by
  cases x with
  | nan => cases product
  | infinite =>
      cases y with
      | nan => cases product
      | infinite => cases product
      | finite _ b =>
          simp only [mul] at product
          split at product <;> cases product
  | finite _ a =>
      cases y with
      | nan => cases product
      | infinite =>
          simp only [mul] at product
          split at product <;> cases product
      | finite _ b => exact representable_of_ofRatio perOne_pos product

theorem exists_finite_of_isFinite {x : Binary64} (finite : x.isFinite = true) :
    ∃ negative units, x = .finite negative units := by
  cases x with
  | nan => cases finite
  | infinite => cases finite
  | finite negative units => exact ⟨negative, units, rfl⟩

end Binary64

namespace Retry.Policy

attribute [local irreducible] perOne overflow

variable {p : Policy}

/-! ## Never longer than the cap -/

/-- A representable magnitude below the seconds of a duration is not longer than it. -/
theorem le_of_lt_toSeconds {d : Duration} {units : Nat} (representable : Representable units)
    (below : units < d.secondUnits) : units * 1000000000 ≤ d.nanos * perOne := by
  by_contra longer
  have crossed := Duration.secondUnits_le representable (Nat.le_of_not_le longer)
  omega

/-- A product below the cap is a length of time, and not longer than the cap. -/
theorem exists_of_belowCap {current : Duration} (below : p.belowCap (p.grown current) = true) :
    ∃ d, Duration.ofSeconds64? (p.grown current).atLeastZero = some d ∧
      d.nanos ≤ p.maxDelay.nanos := by
  rw [belowCap, Bool.and_eq_true, Duration.toSeconds_eq] at below
  obtain ⟨finite, less⟩ := below
  obtain ⟨negative, units, product⟩ := exists_finite_of_isFinite finite
  have representable : Representable units := representable_of_mul product
  rw [product] at less ⊢
  cases negative with
  | true =>
      have zero : (0 : Nat) * 1000000000 ≤ p.maxDelay.nanos * perOne := by omega
      obtain ⟨d, answer, -, short⟩ := Duration.exists_ofSeconds64? zero
      exact ⟨d, answer, short⟩
  | false =>
      have fewer := le_of_lt_toSeconds representable (of_decide_eq_true less)
      obtain ⟨d, answer, -, short⟩ := Duration.exists_ofSeconds64? fewer
      exact ⟨d, answer, short⟩

/-- There always is a next delay, and it is not longer than the cap. -/
theorem next?_eq (p : Policy) (current : Duration) :
    p.next? current = some (p.next current) ∧ (p.next current).nanos ≤ p.maxDelay.nanos := by
  by_cases below : p.belowCap (p.grown current) = true
  · obtain ⟨d, answer, short⟩ := exists_of_belowCap below
    have next? : p.next? current = some d := (if_pos below).trans answer
    rw [next, next?]
    exact ⟨rfl, short⟩
  · have next? : p.next? current = some p.maxDelay := if_neg below
    rw [next, next?]
    exact ⟨rfl, Nat.le_refl _⟩

/-- The `n`-th delay, if it and every one before it has an answer. -/
def delay? (p : Policy) : Nat → Option Duration
  | 0 => p.next? p.initialDelay
  | n + 1 => (p.delay? n).bind p.next?

theorem delay?_eq (p : Policy) (n : Nat) : p.delay? n = some (p.delay n) := by
  induction n with
  | zero => exact (p.next?_eq p.initialDelay).1
  | succ n ih =>
      rw [delay?, ih, Option.bind_some]
      exact (p.next?_eq (p.delay n)).1

theorem delay_nanos_le (p : Policy) (n : Nat) : (p.delay n).nanos ≤ p.maxDelay.nanos := by
  cases n with
  | zero => exact (p.next?_eq p.initialDelay).2
  | succ n => exact (p.next?_eq (p.delay n)).2

/-- **Delays never exceed their cap, and there always is one.**  For every policy, whatever its
first delay, its cap and its factor are, be the factor negative, infinite or no number: every
delay of the sequence is an answer of its own, and none is longer than the cap. -/
theorem delay_le_maxDelay (p : Policy) (n : Nat) :
    p.delay? n = some (p.delay n) ∧ (p.delay n).nanos ≤ p.maxDelay.nanos :=
  ⟨p.delay?_eq n, p.delay_nanos_le n⟩

/-! ## Whole factors -/

/-- Three roundings move a value by less than four parts in `2 ^ 53`. -/
theorem near_of_within {n units : Nat} (within : Within 3 (n * perOne / 1000000000 : ℚ) units) :
    9007199254740992 * (units * 1000000000) ≤ 9007199254740996 * (n * perOne) ∧
      9007199254740988 * (n * perOne) ≤ 9007199254740992 * (units * 1000000000) := by
  obtain ⟨low, high⟩ := within
  have nonneg : (0 : ℚ) ≤ n * perOne := by positivity
  constructor
  · have more : (1 + roundoff) ^ 3 ≤ 9007199254740996 / 9007199254740992 := by
      norm_num [roundoff]
    have scaled := mul_le_mul_of_nonneg_left more nonneg
    have bound : (9007199254740992 * (units * 1000000000) : ℚ) ≤
        9007199254740996 * (n * perOne) := by linarith
    exact_mod_cast bound
  · have less : 9007199254740988 / 9007199254740992 ≤ (1 - roundoff) ^ 3 := by
      norm_num [roundoff]
    have scaled := mul_le_mul_of_nonneg_left less nonneg
    have bound : (9007199254740988 * (n * perOne) : ℚ) ≤
        9007199254740992 * (units * 1000000000) := by linarith
    exact_mod_cast bound

section Whole

variable {m : Nat} {current : Duration}

/-- The magnitude of a delay's seconds times a whole factor. -/
def productUnits (current : Duration) (m : Nat) : Nat :=
  nearest (current.secondUnits * (m * perOne)) perOne

theorem grown_eq (exact : m < 2 * leadingBit) (factor : p.multiplier = .ofNat m)
    (current : Duration) : p.grown current = .finite false (productUnits current m) := by
  rw [grown, Duration.toSeconds_eq, factor, ofNat_eq_whole (Nat.le_of_lt exact), mul_finite]
  refine ofRatio_eq_finite 117 perOne_pos (by decide) ?_
  have long : current.secondUnits ≤ UInt64.size * perOne := current.secondUnits_le_size
  have wide : m * perOne ≤ 2 * leadingBit * perOne :=
    Nat.mul_le_mul_right perOne (Nat.le_of_lt exact)
  calc current.secondUnits * (m * perOne)
      ≤ UInt64.size * perOne * (2 * leadingBit * perOne) := Nat.mul_le_mul long wide
    _ = UInt64.size * (2 * leadingBit) * perOne * perOne := by ring
    _ = Nat.pow 2 117 * perOne * perOne := rfl

/-- A product comes from three roundings. -/
theorem within_productUnits (positive : 1 ≤ m) (current : Duration) :
    Within 3 ((current.nanos * m : Nat) * perOne / 1000000000 : ℚ) (productUnits current m) := by
  have one : (perOne : ℚ) ≠ 0 := by exact_mod_cast perOne_pos.ne'
  have seconds := current.within_secondUnits.mul m (by positivity)
  have product : Within 1 ((current.secondUnits * (m * perOne) : Nat) / perOne : ℚ)
      (productUnits current m) :=
    within_nearest perOne_pos (current.normal_secondUnits.mul positive perOne)
  have same : ((current.secondUnits * (m * perOne) : Nat) / perOne : ℚ) =
      current.secondUnits * m := by
    push_cast
    field_simp
  have exact : (current.nanos * perOne / 1000000000 * m : ℚ) =
      (current.nanos * m : Nat) * perOne / 1000000000 := by
    push_cast
    ring
  rw [same] at product
  rw [exact] at seconds
  exact seconds.trans product

/-- The next delay is the product or the cap, whichever is shorter. -/
theorem next_nanos (positive : 1 ≤ m) (exact : m < 2 * leadingBit)
    (factor : p.multiplier = .ofNat m) (short : p.maxDelay.nanos ≤ 1000000 * 1000000000)
    (current : Duration) :
    (p.next current).nanos = min (current.nanos * m) p.maxDelay.nanos := by
  obtain ⟨high, low⟩ := near_of_within (within_productUnits positive current)
  obtain ⟨capHigh, capLow⟩ := near_of_within (p.maxDelay.within_secondUnits.weaken (by positivity))
  have one := perOne_pos
  have cap : p.maxDelay.nanos * perOne ≤ 1000000 * 1000000000 * perOne :=
    Nat.mul_le_mul_right perOne short
  have below_iff : p.belowCap (p.grown current) = true ↔
      productUnits current m < p.maxDelay.secondUnits := by
    rw [grown_eq exact factor, belowCap, Duration.toSeconds_eq, lt_finite, isFinite,
      Bool.true_and, decide_eq_true_iff]
  by_cases beyond : p.maxDelay.nanos < current.nanos * m
  · -- the product is a nanosecond longer than the cap at least, and compares as longer
    have apart := Nat.mul_le_mul_right perOne (Nat.succ_le_of_lt beyond)
    rw [Nat.succ_mul] at apart
    have above : ¬ p.belowCap (p.grown current) = true := by
      rw [below_iff]
      omega
    have next? : p.next? current = some p.maxDelay := if_neg above
    rw [next, next?, Option.getD_some]
    omega
  · have within : current.nanos * m ≤ p.maxDelay.nanos := Nat.le_of_not_lt beyond
    have product := Nat.mul_le_mul_right perOne within
    have rounded : roundHalfEven (productUnits current m * 1000000000) perOne =
        current.nanos * m := by
      apply roundHalfEven_eq <;> omega
    rw [Nat.min_eq_left within]
    by_cases below : p.belowCap (p.grown current) = true
    · have held : Representable (productUnits current m) :=
        (rounded_nearest perOne_pos _).representable
      have fewer := le_of_lt_toSeconds held (below_iff.mp below)
      obtain ⟨d, answer, nanos, -⟩ := Duration.exists_ofSeconds64? fewer
      have next? : p.next? current = some d := by
        rw [next?, if_pos below, grown_eq exact factor]
        exact answer
      rw [next, next?, Option.getD_some, nanos]
      exact rounded
    · have same : current.nanos * m = p.maxDelay.nanos := by
        by_contra other
        have apart := Nat.mul_le_mul_right perOne
          (Nat.succ_le_of_lt (Nat.lt_of_le_of_ne within other))
        rw [Nat.succ_mul] at apart
        exact below (below_iff.mpr (by omega))
      have next? : p.next? current = some p.maxDelay := if_neg below
      rw [next, next?, Option.getD_some, same]

end Whole

/-- **Delays are the capped geometric sequence to the nanosecond.**  With a whole factor that
binary64 has room for, and a cap of `10 ^ 6` seconds at most, the `n`-th delay, counted from
zero, is the first delay times the factor to the power `n + 1`, or the cap if that is shorter:
no rounding ever shows, however many delays have gone before. -/
theorem delay_eq_geometric (p : Policy) (m : Nat) (positive : 1 ≤ m) (exact : m < 2 ^ 53)
    (factor : p.multiplier = .ofNat m) (short : p.maxDelay.nanos ≤ 1000000 * 1000000000)
    (n : Nat) :
    (p.delay n).nanos = min (p.initialDelay.nanos * m ^ (n + 1)) p.maxDelay.nanos := by
  have next := p.next_nanos positive exact factor short
  induction n with
  | zero => rw [delay, next, Nat.zero_add, pow_one]
  | succ n ih =>
      have grows : p.maxDelay.nanos ≤ p.maxDelay.nanos * m := Nat.le_mul_of_pos_right _ positive
      rw [delay, next, ih, ← Nat.mul_min_mul_right, pow_succ m (n + 1), ← Nat.mul_assoc]
      omega

/-- Tripled from a tenth of a second up to a week, which the thirteenth delay has not
reached. -/
theorem delay_eq_geometric_tripled :
    let p : Policy :=
      { maxAttempts := 20, initialDelay := .ofMillis 100, maxDelay := .ofSeconds 604800,
        multiplier := .ofNat 3 }
    1 ≤ 3 ∧ 3 < 2 ^ 53 ∧ p.multiplier = .ofNat 3 ∧ p.maxDelay.nanos ≤ 1000000 * 1000000000 ∧
      (p.delay 12).nanos = 159432300000000 := by
  intro p
  have short : p.maxDelay.nanos ≤ 1000000 * 1000000000 := by decide
  refine ⟨by decide, by decide, rfl, short, ?_⟩
  exact (delay_eq_geometric p 3 (by decide) (by decide) rfl short 12).trans (by decide)

end Retry.Policy

end Courier
