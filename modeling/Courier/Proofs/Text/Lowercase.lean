/-
# Courier.Proofs.Text.Lowercase -- what lower case does to marks

Marks have no case: each of the `caseless` characters is its own lower-case form
(`lowerChar_of_caseless`) and no other's (`eq_of_mem_lowerChar`).  So a mark stands in a text
exactly if it stands in its lower-case form (`mem_lowerFrom`), and so it is with what comes
after the last of some mark (`mem_afterLast_lowerFrom`).

Apart from the capital sigma the form of a character does not depend on its place
(`lowerFrom_eq_flatMap`), and texts whose forms agree letter by letter agree as a whole
(`lowercase_congr`).
-/
import Courier.Proofs.Text.Scan
import Courier.Proofs.Text.Tables
import Courier.Text.Lowercase
import Courier.Text.Scan

namespace Courier.Text

set_option autoImplicit false

variable {before after : List Char} {c d : Char}

/-! ## Marks -/

/-- A fact about ASCII is one about 128 numbers. -/
theorem of_ascii {p : Char → Prop} (holds : ∀ n < 128, p (Char.ofNat n)) (ascii : c.toNat < 128) :
    p c := by
  have fact := holds c.toNat ascii
  rwa [Char.ofNat_toNat] at fact

theorem toLower_of_caseless : ∀ c ∈ caseless, c.toLower = c := by
  decide

theorem eq_of_toLower_caseless (ascii : c.toNat < 128) :
    ∀ d ∈ caseless, c.toLower = d → c = d := by
  refine of_ascii (p := fun c => ∀ d ∈ caseless, c.toLower = d → c = d) ?_ ascii
  decide

/-- A mark is its own lower-case form. -/
theorem lowerChar_of_caseless (kept : c ∈ caseless) : lowerChar before c after = [c] := by
  have notSigma : c ≠ 'Σ' := by
    rintro rfl
    revert kept
    decide
  unfold lowerChar
  by_cases ascii : c.toNat < 128
  · rw [if_pos ascii, toLower_of_caseless c kept]
  · have beyond : ∀ c ∈ caseless, ¬ c.toNat < 128 → c ∈ unmapped := by decide
    rw [if_neg ascii, if_neg notSigma, lowerMap_of_unmapped (beyond c kept ascii), Option.getD_none]

/-- And no other character's. -/
theorem eq_of_mem_lowerChar (kept : d ∈ caseless) (member : d ∈ lowerChar before c after) :
    c = d := by
  unfold lowerChar at member
  split at member
  · rename_i ascii
    exact eq_of_toLower_caseless ascii d kept (List.mem_singleton.mp member).symm
  · split at member
    · exfalso
      split at member
      · rw [List.mem_singleton.mp member] at kept
        revert kept
        decide
      · rw [List.mem_singleton.mp member] at kept
        revert kept
        decide
    · cases found : lowerMap.find? c with
      | none =>
          rw [found, Option.getD_none] at member
          exact (List.mem_singleton.mp member).symm
      | some text =>
          rw [found, Option.getD_some] at member
          exact absurd member (lowerMap_avoids found kept)

theorem mem_lowerFrom {before text : List Char} (kept : d ∈ caseless) :
    d ∈ lowerFrom before text ↔ d ∈ text := by
  induction text generalizing before with
  | nil => rfl
  | cons c after ih =>
      rw [lowerFrom, List.mem_append, ih, List.mem_cons]
      constructor
      · rintro (here | later)
        · exact .inl (eq_of_mem_lowerChar kept here).symm
        · exact .inr later
      · rintro (rfl | later)
        · rw [lowerChar_of_caseless kept]
          exact .inl List.mem_cons_self
        · exact .inr later

theorem exists_lowerFrom_append (before text more : List Char) :
    ∃ front, lowerFrom before (text ++ more) = front ++ lowerFrom (text.reverse ++ before) more := by
  induction text generalizing before with
  | nil => exact ⟨[], rfl⟩
  | cons c rest ih =>
      obtain ⟨front, same⟩ := ih (c :: before)
      refine ⟨lowerChar before c (rest ++ more) ++ front, ?_⟩
      rw [List.cons_append, lowerFrom, same]
      simp

/-- Marks come after the last of one of them in the lower-case form as they do in the text. -/
theorem mem_afterLast_lowerFrom {before text : List Char} (mark : c ∈ caseless)
    (kept : d ∈ caseless) : d ∈ afterLast c (lowerFrom before text) ↔ d ∈ afterLast c text := by
  by_cases member : c ∈ text
  · obtain ⟨first, cut⟩ := exists_eq_afterLast member
    obtain ⟨front, same⟩ := exists_lowerFrom_append before first (c :: afterLast c text)
    rw [← cut, lowerFrom, lowerChar_of_caseless mark, List.singleton_append] at same
    have absent : c ∉ lowerFrom (c :: (first.reverse ++ before)) (afterLast c text) := by
      rw [mem_lowerFrom mark]
      exact not_mem_afterLast c text
    rw [same, afterLast_append_mark _ absent, mem_lowerFrom kept]
  · have absent : c ∉ lowerFrom before text := (mem_lowerFrom mark).not.mpr member
    rw [afterLast_of_not_mem member, afterLast_of_not_mem absent, mem_lowerFrom kept]

/-! ## ASCII -/

/-- The lower case of ASCII text is that of its characters. -/
theorem lowerFrom_append {before text more : List Char} (ascii : ∀ c ∈ text, c.toNat < 128) :
    lowerFrom before (text ++ more) =
      text.map Char.toLower ++ lowerFrom (text.reverse ++ before) more := by
  induction text generalizing before with
  | nil => rfl
  | cons c rest ih =>
      rw [List.cons_append, lowerFrom, ih fun d member => ascii d (List.mem_cons_of_mem c member)]
      have form : lowerChar before c (rest ++ more) = [c.toLower] := by
        unfold lowerChar
        rw [if_pos (ascii c List.mem_cons_self)]
      rw [form]
      simp

/-! ## Case variants -/

/-- The form of a character wherever it stands; it says nothing of a capital sigma. -/
def lowerForm (c : Char) : List Char := lowerChar [] c []

theorem lowerChar_eq_lowerForm (other : c ≠ 'Σ') : lowerChar before c after = lowerForm c := by
  unfold lowerForm lowerChar
  rw [if_neg other, if_neg other]

theorem lowerForm_of_ascii (ascii : c.toNat < 128) : lowerForm c = [c.toLower] := if_pos ascii

theorem lowerForm_of_unmapped (bare : c ∈ unmapped) : lowerForm c = [c] := by
  have beyond : ∀ c ∈ unmapped, ¬ c.toNat < 128 ∧ c ≠ 'Σ' := by decide
  rw [lowerForm, lowerChar, if_neg (beyond c bare).1, if_neg (beyond c bare).2,
    lowerMap_of_unmapped bare, Option.getD_none]

/-- Without a capital sigma every character is put in lower case for itself. -/
theorem lowerFrom_eq_flatMap {before text : List Char} (sigma : 'Σ' ∉ text) :
    lowerFrom before text = text.flatMap lowerForm := by
  induction text generalizing before with
  | nil => rfl
  | cons c rest ih =>
      rw [List.mem_cons, not_or] at sigma
      rw [lowerFrom, lowerChar_eq_lowerForm (Ne.symm sigma.1), ih sigma.2, List.flatMap_cons]

/-- Texts that have, letter by letter, the same lower-case form. -/
def SameLetters (text other : List Char) : Prop := text.map lowerForm = other.map lowerForm

instance (text other : List Char) : Decidable (SameLetters text other) :=
  inferInstanceAs (Decidable (_ = _))

/-- Without a capital sigma, such texts have one lower-case form. -/
theorem lowercase_congr {text other : List Char} (sigma : 'Σ' ∉ text) (otherSigma : 'Σ' ∉ other)
    (same : SameLetters text other) : lowercase text = lowercase other := by
  rw [lowercase, lowercase, lowerFrom_eq_flatMap sigma, lowerFrom_eq_flatMap otherSigma,
    List.flatMap_def, List.flatMap_def, same]

/-! ## Sigmas -/

theorem lowerForm_sigma : lowerForm 'σ' = ['σ'] := lowerForm_of_unmapped (by decide)

theorem lowerForm_capitalSigma : lowerForm 'Σ' = ['σ'] := by
  rw [lowerForm, lowerChar, if_neg (by decide), if_pos rfl]
  rfl

set_option maxRecDepth 100000 in
theorem meetsCased_a (before : List Char) : meetsCased ('a' :: before) = true := by
  have ignorable : isCaseIgnorable 'a' = false := by
    unfold isCaseIgnorable caseIgnorableCharacters CharSet.ofText
    rw [Table.ofText_ofList]
    decide +kernel
  have cased : isCased 'a' = true := by
    unfold isCased casedCharacters CharSet.ofText
    rw [Table.ofText_ofList]
    decide +kernel
  rw [meetsCased, List.dropWhile_cons_of_neg (by simp [ignorable]), List.head?_cons,
    Option.any_some, cased]

/-- A capital sigma at the end of a word becomes another letter than elsewhere. -/
theorem lowerChar_finalSigma (before : List Char) : lowerChar ('a' :: before) 'Σ' [] = ['ς'] := by
  rw [lowerChar, if_neg (by decide), if_pos rfl, meetsCased_a]
  rfl

end Courier.Text
