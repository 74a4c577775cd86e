/-
# Courier.Binary64.Shortest -- the shortest decimal that reads back

Every finite binary64 number is the nearest one to a whole interval of reals.
`Decimal.shortest` takes the coarsest decimal grid that has a point in that
interval and on it the point nearest to the number (`significand`, `exponent`); an
exact tie goes to the even digit.

How such a decimal is laid out is `Decimal.render`: positional from `1e-5` up to
below `1e16`, with at least one digit after the point; beyond that with an
exponent and its sign.
-/
import Courier.Binary64

namespace Courier

set_option autoImplicit false

/-- A positive decimal number: `significand * 10 ^ exponent`. -/
structure Decimal where
  significand : Nat
  exponent : Int
  deriving DecidableEq

namespace Decimal

/-- Half the distance to the next smaller and to the next larger number, in
quarters of the smallest unit, and whether the ends of the interval count. -/
structure Interval where
  /-- Four times the number's units. -/
  centre : Nat
  below : Nat
  above : Nat
  closed : Bool

/-- The reals that round to `units`, in quarters of the smallest unit. -/
def interval (units : Nat) : Interval :=
  let step := Nat.pow 2 (units.log2 - 52)
  let significand := units / step
  let smaller := if significand = Binary64.leadingBit ∧ 1 < step then step else 2 * step
  ⟨4 * units, smaller, 2 * step, significand % 2 == 0⟩

/-- Whether `n / d` quarters of a unit lie in the interval. -/
def Interval.contains (i : Interval) (n d : Nat) : Bool :=
  let low := (i.centre - i.below) * d
  let high := (i.centre + i.above) * d
  if i.closed then decide (low ≤ n ∧ n ≤ high) else decide (low < n ∧ n < high)

/-- `10 ^ e` as a quotient, in quarters of the smallest unit. -/
def gridStep (e : Int) : Nat × Nat :=
  match e with
  | .ofNat n => (Nat.pow 10 n * (4 * Binary64.perOne), 1)
  | .negSucc n => (4 * Binary64.perOne, Nat.pow 10 (n + 1))

/-- The point of the grid `10 ^ e` that stands for the interval, if there is one. -/
def onGrid (i : Interval) (e : Int) : Option Decimal :=
  let (num, den) := gridStep e
  -- the point `k` lies at `k * num / den`
  let k := i.centre * den / num
  let lower := i.contains (k * num) den
  let upper := i.contains ((k + 1) * num) den
  let toLower := i.centre * den - k * num
  let toUpper := (k + 1) * num - i.centre * den
  if lower && 0 < k then
    if upper && (toUpper < toLower || (toUpper == toLower && k % 2 == 1)) then some ⟨k + 1, e⟩
    else some ⟨k, e⟩
  else if upper then some ⟨k + 1, e⟩
  else none

/-- The first grid with a point in the interval, from `10 ^ e` downwards. -/
def search (i : Interval) (e : Int) : (tries : Nat) → Decimal
  | 0 => ⟨0, 0⟩
  | tries + 1 =>
      match onGrid i e with
      | some d => d
      | none => search i (e - 1) tries

/-- The shortest decimal that reads back as `units` smallest units. -/
def shortest (units : Nat) : Decimal := search (interval units) 309 640

/-- Digits with the point after the first `places` of them, zeros filled in. -/
def positional (digits : List Char) (places : Int) : List Char :=
  if places ≤ 0 then
    ['0', '.'] ++ List.replicate places.natAbs '0' ++ digits
  else
    let n := places.toNat
    if digits.length ≤ n then digits ++ List.replicate (n - digits.length) '0' ++ ['.', '0']
    else digits.take n ++ '.' :: digits.drop n

/-- An exponent with its sign. -/
def exponentText (e : Int) : List Char :=
  (if e < 0 then '-' else '+') :: Nat.toDigits 10 e.natAbs

/-- Digits of the significand without the zeros it ends with, and the power of
ten that the first digit stands for. -/
def normalized (d : Decimal) : List Char × Int :=
  let digits := Nat.toDigits 10 d.significand
  ((digits.reverse.dropWhile (· == '0')).reverse, d.exponent + digits.length - 1)

/-- The decimal as text. -/
def render (d : Decimal) : List Char :=
  let (digits, power) := d.normalized
  if -5 ≤ power ∧ power < 16 then positional digits (power + 1)
  else
    let mantissa := match digits with
      | first :: second :: rest => first :: '.' :: second :: rest
      | digits => digits
    mantissa ++ 'e' :: exponentText power

end Decimal

/-- A binary64 number as text. -/
def Binary64.render : Binary64 → String
  | .nan .. => "NaN"
  | .infinite negative => if negative then "-inf" else "inf"
  | .finite negative units =>
      let magnitude := if units = 0 then ['0', '.', '0'] else (Decimal.shortest units).render
      String.ofList (if negative then '-' :: magnitude else magnitude)

end Courier
