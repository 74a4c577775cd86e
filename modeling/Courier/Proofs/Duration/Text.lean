/-
# Courier.Proofs.Duration.Text -- what a rendered duration is written with

A duration is rendered in digits, a point and the letters of its unit (`measured_render`).  None of
these has another lower-case form, so a rendered duration in lower case is as it was
(`lowerFrom_render`).
-/
import Courier.Duration
import Courier.Proofs.Text.Lowercase
import Mathlib.Data.List.Basic

namespace Courier.Duration

set_option autoImplicit false

variable {c : Char} {text more : String}

/-- What a rendered duration is written with, apart from digits. -/
def unitMarks : List Char := ['.', 'n', 'µ', 'm', 's']

/-- Whether a character may stand in a rendered duration. -/
def isMeasure (c : Char) : Bool := c.isDigit || unitMarks.contains c

/-- A text of such characters. -/
def Measured (text : String) : Prop := ∀ c ∈ text.toList, isMeasure c = true

instance (text : String) : Decidable (Measured text) :=
  Text.decidableForallMem (fun c => isMeasure c = true) text.toList

/-! ## Digits, a point and a unit -/

theorem Measured.append (first : Measured text) (last : Measured more) :
    Measured (text ++ more) := by
  intro c member
  rw [String.toList_append] at member
  exact (List.mem_append.mp member).elim (first c) (last c)

theorem measured_of_digits (digits : ∀ c ∈ text.toList, c.isDigit = true) : Measured text := by
  intro c member
  rw [isMeasure, digits c member, Bool.true_or]

theorem measured_toString (n : Nat) : Measured (toString n) := by
  refine measured_of_digits fun c member => ?_
  rw [Nat.toString_eq_ofList_toDigits, String.toList_ofList] at member
  exact Nat.isDigit_of_mem_toDigits (by decide) (by decide) member

theorem isDigit_of_mem_fractionDigits {width n : Nat} (small : n < Nat.pow 10 width)
    (member : c ∈ fractionDigits width n) : c.isDigit = true := by
  fun_induction fractionDigits width n with
  | case1 n => cases member
  | case2 width => cases member
  | case3 width n positive place ih =>
      obtain rfl | later := List.mem_cons.mp member
      · have digit : n / place < 10 := Nat.div_lt_of_lt_mul small
        rw [Nat.isDigit_digitChar]
        exact decide_eq_true digit
      · exact ih (Nat.mod_lt n (Nat.pow_pos (by decide))) later

theorem measured_decimal (whole : Nat) {width part : Nat} (small : part < Nat.pow 10 width) :
    Measured (decimal whole width part) := by
  unfold decimal
  split
  · exact measured_toString whole
  · refine ((measured_toString whole).append (by decide)).append (measured_of_digits ?_)
    intro c member
    rw [String.toList_ofList] at member
    exact isDigit_of_mem_fractionDigits small member

theorem measured_render (d : Duration) : Measured d.render := by
  unfold render
  split
  · exact (measured_decimal _ (Nat.mod_lt _ (by decide))).append (by decide)
  · split
    · exact (measured_decimal _ (Nat.mod_lt _ (by decide))).append (by decide)
    · split
      · exact (measured_decimal _ (Nat.mod_lt _ (by decide))).append (by decide)
      · exact (measured_toString _).append (by decide)

/-! ## Lower case -/

theorem lowerForm_of_isMeasure (measure : isMeasure c = true) : Text.lowerForm c = [c] := by
  by_cases ascii : c.toNat < 128
  · have fixed : isMeasure c = true → c.toLower = c :=
      Text.of_ascii (p := fun c => isMeasure c = true → c.toLower = c) (by decide) ascii
    rw [Text.lowerForm_of_ascii ascii, fixed measure]
  · obtain digit | mark := Bool.or_eq_true_iff.mp measure
    · have most : '9'.toNat < 128 := by decide
      exact absurd (Nat.lt_of_le_of_lt (Char.isDigit_iff_toNat.mp digit).2 most) ascii
    · have micro : ∀ c ∈ unitMarks, ¬ c.toNat < 128 → c ∈ Text.unmapped := by decide
      exact Text.lowerForm_of_unmapped (micro c (List.contains_iff_mem.mp mark) ascii)

/-- A rendered duration is in lower case. -/
theorem lowerFrom_render (before : List Char) (d : Duration) :
    Text.lowerFrom before d.render.toList = d.render.toList := by
  have measured := measured_render d
  have sigma : 'Σ' ∉ d.render.toList := fun member => absurd (measured 'Σ' member) (by decide)
  rw [Text.lowerFrom_eq_flatMap sigma,
    List.flatMap_congr fun c member => lowerForm_of_isMeasure (measured c member),
    List.flatMap_singleton']

end Courier.Duration
