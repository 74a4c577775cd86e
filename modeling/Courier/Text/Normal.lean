/-
# Courier.Text.Normal -- the composed normal form of a text

Texts that look the same can be written with different characters.  Their normal
form takes every character apart (`decomposed`), sorts the marks on each letter by
their combining class (`ordered`), and puts together again what composes
(`composed`).  Korean syllables are taken apart and put together by arithmetic.
-/
import Courier.Text.Composition

namespace Courier.Text

set_option autoImplicit false

def combiningClass (c : Char) : Nat := combiningClasses.of c

namespace Syllable

def base : Nat := 0xAC00
def leads : Nat := 0x1100
def vowels : Nat := 0x1161
def trails : Nat := 0x11A7

/-- The letters of a Korean syllable. -/
def letters? (c : Char) : Option (List Char) :=
  if base ≤ c.toNat ∧ c.toNat < base + 19 * 588 then
    let i := c.toNat - base
    let pair := [Char.ofNat (leads + i / 588), Char.ofNat (vowels + i % 588 / 28)]
    some (if i % 28 = 0 then pair else pair ++ [Char.ofNat (trails + i % 28)])
  else none

/-- A leading consonant and a vowel, or an open syllable and a final consonant. -/
def join? (a b : Char) : Option Char :=
  let m := a.toNat
  let n := b.toNat
  if leads ≤ m ∧ m < leads + 19 ∧ vowels ≤ n ∧ n < vowels + 21 then
    some (Char.ofNat (base + ((m - leads) * 21 + (n - vowels)) * 28))
  else if base ≤ m ∧ m < base + 19 * 588 ∧ (m - base) % 28 = 0 ∧ trails < n ∧ n < trails + 28 then
    some (Char.ofNat (m + (n - trails)))
  else none

end Syllable

/-- What a character is made of, if it is no whole. -/
def parts? (c : Char) : Option (List Char) :=
  if c.toNat < 128 then none else (Syllable.letters? c).or (decompositions.find? c)

/-- Takes a character apart, and what it is made of, in at most `depth` rounds. -/
def takeApart (parts? : Char → Option (List Char)) : (depth : Nat) → Char → List Char
  | 0, c => [c]
  | depth + 1, c =>
      match parts? c with
      | some parts => parts.flatMap (takeApart parts? depth)
      | none => [c]

/-- The characters that a character is made of in the end. -/
def decompose (c : Char) : List Char := takeApart parts? 8 c

/-- Every character taken apart. -/
def decomposed (text : List Char) : List Char := text.flatMap decompose

/-- Puts a mark behind the marks of its own or a lower class that end `before`,
which is written backwards. -/
def insertMark (c : Char) : (before : List Char) → List Char
  | [] => [c]
  | d :: before =>
      if combiningClass c < combiningClass d then d :: insertMark c before
      else c :: d :: before

/-- Marks sorted by class; `before` is what is already sorted, backwards. -/
def orderFrom (before : List Char) : List Char → List Char
  | [] => before.reverse
  | c :: rest =>
      orderFrom (if combiningClass c = 0 then c :: before else insertMark c before) rest

def ordered (text : List Char) : List Char := orderFrom [] text

/-- The character that two characters compose to. -/
def compose? (a b : Char) : Option Char :=
  match Syllable.join? a b with
  | some c => some c
  | none =>
      (compositions.find? fun pair => pair.1 == a.toNat && pair.2.1 == b.toNat).map
        fun pair => Char.ofNat pair.2.2

/-- The character that a mark composes to with `starter`.  Marks in between, backwards, are
in its way unless their class is lower. -/
def joined? (starter : Char) (marks : List Char) (c : Char) : Option Char :=
  match marks with
  | [] => compose? starter c
  | last :: _ => if combiningClass last < combiningClass c then compose? starter c else none

/-- Composes onto `starter`; `marks`, backwards, are those after it that did not
compose. -/
def composeFrom (starter : Char) (marks : List Char) : List Char → List Char
  | [] => starter :: marks.reverse
  | c :: rest =>
      match joined? starter marks c with
      | some joined => composeFrom joined marks rest
      | none =>
          if combiningClass c = 0 then starter :: marks.reverse ++ composeFrom c [] rest
          else composeFrom starter (c :: marks) rest

/-- Composes what composes. -/
def composed : List Char → List Char
  | [] => []
  | c :: rest =>
      if combiningClass c = 0 then composeFrom c [] rest else c :: composed rest

/-- The composed normal form. -/
def normalized (text : List Char) : List Char :=
  if text.all (·.toNat < 0x300) then text else composed (ordered (decomposed text))

end Courier.Text
