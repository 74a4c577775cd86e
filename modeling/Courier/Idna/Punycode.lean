/-
# Courier.Idna.Punycode -- any text in letters, digits and hyphens

A label is written as its ASCII characters, a hyphen, and then the other characters
in order of their number: each as the distance to it from the one before, counted
over all numbers and all places where it could stand, in digits of varying value
whose thresholds adapt to the distances met so far.
-/

namespace Courier.Idna.Punycode

set_option autoImplicit false

def base : Nat := 36

/-- Distance over which thresholds change, adapted to a distance just written. -/
def adapt (delta points : Nat) (first : Bool) : Nat :=
  let delta := if first then delta / 700 else delta / 2
  settle 64 (delta + delta / points) 0
where
  settle : (fuel : Nat) → (delta k : Nat) → Nat
    | 0, _, k => k
    | fuel + 1, delta, k =>
        if 455 < delta then settle fuel (delta / 35) (k + base)
        else k + 36 * delta / (delta + 38)

/-- Threshold of the digit at weight `k`. -/
def threshold (k bias : Nat) : Nat :=
  if k ≤ bias + 1 then 1 else if bias + 26 ≤ k then 26 else k - bias

/-- Value of a digit. -/
def digit? (c : Char) : Option Nat :=
  if 'a' ≤ c ∧ c ≤ 'z' then some (c.toNat - 'a'.toNat)
  else if 'A' ≤ c ∧ c ≤ 'Z' then some (c.toNat - 'A'.toNat)
  else if c.isDigit then some (c.toNat - '0'.toNat + 26)
  else none

def digitChar (n : Nat) : Char :=
  if n < 26 then Char.ofNat ('a'.toNat + n) else Char.ofNat ('0'.toNat + (n - 26))

/-- One distance off the front of a text, and the rest. -/
def readDelta (bias : Nat) : (k weight value : Nat) → List Char → Option (Nat × List Char)
  | _, _, _, [] => none
  | k, weight, value, c :: rest => do
      let d ← digit? c
      let value := value + d * weight
      let t := threshold k bias
      if d < t then some (value, rest)
      else readDelta bias (k + base) (weight * (base - t)) value rest

theorem readDelta_length {bias : Nat} {text : List Char} {k weight value n : Nat}
    {rest : List Char} (h : readDelta bias k weight value text = some (n, rest)) :
    rest.length < text.length := by
  induction text generalizing k weight value with
  | nil => simp [readDelta] at h
  | cons c text ih =>
      simp only [readDelta, Option.bind_eq_bind] at h
      cases hd : digit? c with
      | none => simp [hd] at h
      | some d =>
          simp only [hd, Option.bind_some] at h
          split at h
          · simp only [Option.some.injEq, Prod.mk.injEq] at h
            simp [h.2]
          · have := ih h
            simp only [List.length_cons]
            omega

/-- Puts the characters that the distances in a text stand for where they belong. -/
def insertAll (output : List Char) (n i bias : Nat) (first : Bool) (text : List Char) :
    Option (List Char) :=
  match text with
  | [] => some output
  | c :: more =>
      match _read : readDelta bias base 1 i (c :: more) with
      | none => none
      | some (j, rest) =>
          let points := output.length + 1
          let code := n + j / points
          let place := j % points
          if code < 0x110000 ∧ ¬(0xD800 ≤ code ∧ code < 0xE000) then
            insertAll (output.take place ++ Char.ofNat code :: output.drop place) code (place + 1)
              (adapt (j - i) points first) false rest
          else none
termination_by text.length
decreasing_by exact readDelta_length _read

/-- The label that a text stands for. -/
def decode (text : List Char) : Option (List Char) :=
  let extended := (text.reverse.takeWhile (· != '-')).reverse
  let plain := text.take (text.length - extended.length - 1)
  let extended := if plain.isEmpty then text else extended
  if plain.all (·.toNat < 128) then insertAll plain 128 0 72 true extended else none

/-- The digits of a distance. -/
def deltaDigits (bias : Nat) : (fuel k q : Nat) → List Char
  | 0, _, _ => []
  | fuel + 1, k, q =>
      let t := threshold k bias
      if q < t then [digitChar q]
      else digitChar (t + (q - t) % (base - t))
        :: deltaDigits bias fuel (k + base) ((q - t) / (base - t))

/-- A text being written: the characters below `n` are done, `handled` of them. -/
structure Writing where
  /-- What is written so far, backwards. -/
  output : List Char
  delta : Nat
  bias : Nat
  handled : Nat

/-- Goes over a label once and writes a distance for each `n` in it. -/
def writeRound (plain n : Nat) (w : Writing) (c : Char) : Writing :=
  if c.toNat < n then { w with delta := w.delta + 1 }
  else if c.toNat = n then
    { output := (deltaDigits w.bias (w.delta + 2) base w.delta).reverseAux w.output
      delta := 0
      bias := adapt w.delta (w.handled + 1) (w.handled == plain)
      handled := w.handled + 1 }
  else w

/-- Writes every character from `n` on, in the order of their numbers. -/
def writeAll (label : List Char) (plain : Nat) : (codes : List Nat) → (n : Nat) → Writing → Writing
  | [], _, w => w
  | code :: codes, n, w =>
      let w := { w with delta := w.delta + (code - n) * (w.handled + 1) }
      let w := label.foldl (writeRound plain code) w
      writeAll label plain codes (code + 1) { w with delta := w.delta + 1 }

/-- The text that stands for a label. -/
def encode (label : List Char) : List Char :=
  let plain := label.filter (·.toNat < 128)
  let codes := ((label.filter (128 ≤ ·.toNat)).map Char.toNat).eraseDups.mergeSort
  let start := if plain.isEmpty then [] else '-' :: plain.reverse
  (writeAll label plain.length codes 128 ⟨start, 0, 72, plain.length⟩).output.reverse

end Courier.Idna.Punycode
