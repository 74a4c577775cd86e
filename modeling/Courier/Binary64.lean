/-
# Courier.Binary64 -- binary64 numbers as exact multiples of one unit

Every finite binary64 number is a whole multiple of `2 ^ (-1074)`, so a value is
kept as its sign and that multiple (`units`); infinities and NaNs stand apart.  A NaN
keeps the bits it was decoded from, and arithmetic hands it on.  Arithmetic is exact
on the multiples and then rounded once, to the nearest representable value with ties
to even (`ofRatio`), which is what the standard asks of multiplication, division and
addition.

* `ofBits` decodes the interchange format and `toBits` encodes it;
* `mul`, `div` and `add` round the exact result once;
* `lt` is the ordered comparison: false as soon as a NaN takes part.
-/

namespace Courier

set_option autoImplicit false

/-- The value of a binary64 datum: a sign with a multiple of `2 ^ (-1074)`, an
infinity, or a NaN with its sign and fraction. -/
inductive Binary64 where
  | nan (negative : Bool) (fraction : Nat)
  | infinite (negative : Bool)
  | finite (negative : Bool) (units : Nat)
  deriving DecidableEq

/-- The quotient `num / den` rounded to the nearest whole number, ties to the
even one. -/
def roundHalfEven (num den : Nat) : Nat :=
  let q := num / den
  let r := num % den
  if 2 * r < den then q
  else if 2 * r = den then q + q % 2
  else q + 1

namespace Binary64

/-- How many of the smallest unit make one. -/
def perOne : Nat := Nat.pow 2 1074

/-- The bit before the fraction, which is not stored. -/
def leadingBit : Nat := 0x10000000000000

/-- Multiple of the smallest unit at which the finite range ends. -/
def overflow : Nat := Nat.pow 2 2098

/-- The multiple of the smallest unit nearest to `num / den`, as a 53-bit
significand scaled by a power of two; ties go to the even significand. -/
def nearest (num den : Nat) : Nat :=
  let scale := Nat.pow 2 ((num / den).log2 - 52)
  roundHalfEven num (den * scale) * scale

/-- The value nearest to `num / den` units, infinite beyond the finite range. -/
def ofRatio (negative : Bool) (num den : Nat) : Binary64 :=
  let units := nearest num den
  if units < overflow then .finite negative units else .infinite negative

/-- The value nearest to a natural number. -/
def ofNat (n : Nat) : Binary64 := ofRatio false (n * perOne) 1

def zero : Binary64 := .finite false 0

/-- Decodes the 64-bit interchange format. -/
def ofBits (bits : UInt64) : Binary64 :=
  let negative := decide (0x8000000000000000 ≤ bits.toNat)
  let exponent := bits.toNat / leadingBit % 0x800
  let fraction := bits.toNat % leadingBit
  if exponent = 2047 then
    if fraction = 0 then .infinite negative else .nan negative fraction
  else if exponent = 0 then .finite negative fraction
  else .finite negative ((leadingBit + fraction) * Nat.pow 2 (exponent - 1))

/-- Sign, exponent and fraction fields put together. -/
def fields (negative : Bool) (exponent fraction : Nat) : UInt64 :=
  UInt64.ofNat ((if negative then 0x8000000000000000 else 0) + exponent * leadingBit + fraction)

/-- The NaN of an operation that has no result. -/
def undefined : Binary64 := .nan false 0x8000000000000

/-- Encodes a value. -/
def toBits : Binary64 → UInt64
  | .nan negative fraction => fields negative 2047 fraction
  | .infinite negative => fields negative 2047 0
  | .finite negative units =>
      if units < leadingBit then fields negative 0 units
      else
        let shift := units.log2 - 52
        fields negative (shift + 1) (units / Nat.pow 2 shift - leadingBit)

def isFinite : Binary64 → Bool
  | .finite .. => true
  | _ => false

def isInfinite : Binary64 → Bool
  | .infinite _ => true
  | _ => false

/-- Whether the value is a zero of either sign. -/
def isZero : Binary64 → Bool
  | .finite _ units => units == 0
  | _ => false

/-- The value, or zero in the place of a negative one. -/
def atLeastZero : Binary64 → Binary64
  | .finite true _ => zero
  | .infinite true => zero
  | x => x

def neg : Binary64 → Binary64
  | .nan negative fraction => .nan (!negative) fraction
  | .infinite negative => .infinite (!negative)
  | .finite negative units => .finite (!negative) units

def mul : Binary64 → Binary64 → Binary64
  | .nan s f, _ => .nan s f
  | _, .nan s f => .nan s f
  | .infinite s, .infinite t => .infinite (s != t)
  | .infinite s, .finite t units => if units = 0 then undefined else .infinite (s != t)
  | .finite s units, .infinite t => if units = 0 then undefined else .infinite (s != t)
  | .finite s a, .finite t b => ofRatio (s != t) (a * b) perOne

def div : Binary64 → Binary64 → Binary64
  | .nan s f, _ => .nan s f
  | _, .nan s f => .nan s f
  | .infinite _, .infinite _ => undefined
  | .infinite s, .finite t _ => .infinite (s != t)
  | .finite s _, .infinite t => .finite (s != t) 0
  | .finite s a, .finite t b =>
      if b = 0 then (if a = 0 then undefined else .infinite (s != t))
      else ofRatio (s != t) (a * perOne) b

def add : Binary64 → Binary64 → Binary64
  | .nan s f, _ => .nan s f
  | _, .nan s f => .nan s f
  | .infinite s, .infinite t => if s = t then .infinite s else undefined
  | .infinite s, .finite .. => .infinite s
  | .finite .., .infinite t => .infinite t
  | .finite s a, .finite t b =>
      if s = t then ofRatio s (a + b) 1
      else if b ≤ a then (if a = b then zero else ofRatio s (a - b) 1)
      else ofRatio t (b - a) 1

/-- Ordered comparison; false when either side is NaN. -/
def lt : Binary64 → Binary64 → Bool
  | .nan .., _ => false
  | _, .nan .. => false
  | .infinite s, .infinite t => s && !t
  | .infinite s, .finite .. => s
  | .finite .., .infinite t => !t
  | .finite s a, .finite t b =>
      match s, t with
      | false, false => decide (a < b)
      | false, true => false
      | true, false => decide (0 < a + b)
      | true, true => decide (b < a)

end Binary64

end Courier
