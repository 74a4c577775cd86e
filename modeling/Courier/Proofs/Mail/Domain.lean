/-
# Courier.Proofs.Mail.Domain -- marks in the domains of email addresses

IP addresses are read from digits, colons and dots (`Ip.mem_of_isAddress`), so a mark in a
domain says what kind of domain it is.  One with a semicolon in it has to be a text in brackets
for `Mail.Address`, as it stands or in its ASCII form, and then one character of it opens the
bracket, no ampersand before it and none like it behind (`bracket_of_isDomain`).  Of such a
domain the check of requests says that it ends in an IP address, and so it takes none that
has a mark after the bracket that is no part of one (`not_isDomain`).
-/
import Courier.Mail.Address
import Courier.Proofs.Idna.Ascii
import Courier.Validation

namespace Courier

set_option autoImplicit false

open Text (afterLast lasting)
open Validation (isIpChar)

variable {c d : Char} {text rest domain : List Char}

/-! ## IP addresses -/

namespace Ip

/-- A text is characters of IP addresses and then the rest. -/
def Takes (text rest : List Char) : Prop :=
  ∃ taken, (∀ c ∈ taken, isIpChar c = true) ∧ text = taken ++ rest

namespace Takes

theorem refl (text : List Char) : Takes text text := ⟨[], by simp, rfl⟩

theorem trans {middle : List Char} (first : Takes text middle) (last : Takes middle rest) :
    Takes text rest := by
  obtain ⟨front, ofFront, rfl⟩ := first
  obtain ⟨back, ofBack, rfl⟩ := last
  refine ⟨front ++ back, ?_, (List.append_assoc ..).symm⟩
  intro c member
  exact (List.mem_append.mp member).elim (ofFront c) (ofBack c)

theorem cons (taken : isIpChar c = true) (later : Takes text rest) : Takes (c :: text) rest :=
  trans ⟨[c], by simpa using taken, rfl⟩ later

theorem takeWhile {p : Char → Bool} (taken : ∀ c, p c = true → isIpChar c = true)
    (text : List Char) : Takes text (text.drop (text.takeWhile p).length) := by
  refine ⟨text.takeWhile p, fun c member => taken c (List.mem_takeWhile_imp member), ?_⟩
  exact (List.prefix_iff_eq_append.mp (List.takeWhile_prefix p)).symm

theorem mark (part : isIpChar c = true) (found : Text.mark c text = some rest) :
    Takes text rest := by
  cases text with
  | nil => cases found
  | cons d text =>
      rw [Text.mark] at found
      split at found
      · rename_i same
        cases found
        exact cons (same ▸ part) (refl _)
      · cases found

theorem of_nil (taken : Takes text []) : ∀ c ∈ text, isIpChar c = true := by
  obtain ⟨front, all, rfl⟩ := taken
  simpa using all

end Takes

theorem isIpChar_of_isDigit (c : Char) (digit : c.isDigit = true) : isIpChar c = true := by
  simp [isIpChar, Text.Hexadecimal.isDigit, Text.Hexadecimal.digit?, digit]

theorem octet_takes (found : octet text = some rest) : Takes text rest := by
  unfold octet at found
  dsimp only at found
  split at found
  · cases found
    exact Takes.takeWhile isIpChar_of_isDigit text
  · cases found

theorem quad_takes (found : quad text = some rest) : Takes text rest := by
  have dot : isIpChar '.' = true := by decide
  unfold quad at found
  obtain ⟨t₁, first, found⟩ := Option.bind_eq_some_iff.mp found
  obtain ⟨t₂, firstDot, found⟩ := Option.bind_eq_some_iff.mp found
  obtain ⟨t₃, second, found⟩ := Option.bind_eq_some_iff.mp found
  obtain ⟨t₄, secondDot, found⟩ := Option.bind_eq_some_iff.mp found
  obtain ⟨t₅, third, found⟩ := Option.bind_eq_some_iff.mp found
  obtain ⟨t₆, thirdDot, fourth⟩ := Option.bind_eq_some_iff.mp found
  exact (octet_takes first).trans <| (Takes.mark dot firstDot).trans <|
    (octet_takes second).trans <| (Takes.mark dot secondDot).trans <|
    (octet_takes third).trans <| (Takes.mark dot thirdDot).trans (octet_takes fourth)

theorem group_takes (found : group text = some rest) : Takes text rest := by
  unfold group at found
  dsimp only at found
  split at found
  · cases found
    refine Takes.takeWhile ?_ text
    intro c digit
    simp [isIpChar, digit]
  · cases found

/-- What is read after an optional colon. -/
theorem start_takes {first : Bool} {read : List Char → Option (List Char)}
    (takes : ∀ {text rest}, read text = some rest → Takes text rest)
    (found : (if first then some text else Text.mark ':' text).bind read = some rest) :
    Takes text rest := by
  obtain ⟨middle, start, later⟩ := Option.bind_eq_some_iff.mp found
  split at start
  · cases start
    exact takes later
  · exact (Takes.mark (by decide) start).trans (takes later)

theorem groups_takes (room : Nat) (first : Bool) (taken : Nat) (text : List Char) :
    Takes text (groups room first taken text).rest := by
  induction room generalizing first taken text with
  | zero => exact Takes.refl text
  | succ room ih =>
      unfold groups
      dsimp only
      split
      · rename_i quadFound
        split at quadFound
        · exact start_takes quad_takes quadFound
        · cases quadFound
      · split
        · rename_i groupFound
          exact (start_takes group_takes groupFound).trans (ih ..)
        · exact Takes.refl text

/-- An IP address is digits, colons and dots. -/
theorem mem_of_isAddress (address : isAddress text = true) : ∀ c ∈ text, isIpChar c = true := by
  refine Takes.of_nil ?_
  obtain v4 | v6 := Bool.or_eq_true_iff.mp address
  · exact quad_takes (beq_iff_eq.mp v4)
  · unfold isV6 at v6
    have head := groups_takes 8 true 0 text
    dsimp only at v6
    split at v6
    · rwa [List.isEmpty_iff.mp v6] at head
    · split at v6
      · cases v6
      · split at v6
        · rename_i more colons
          have tail := groups_takes (7 - (groups 8 true 0 text).count) true 0 more
          rw [List.isEmpty_iff.mp v6] at tail
          rw [colons] at head
          exact head.trans ((tail.cons (by decide)).cons (by decide))
        · cases v6

end Ip

/-! ## Domains of addresses -/

namespace Mail.Address

open Idna (Opens bracketForms)

theorem atom_of_isLabel {label : List Char} (valid : isLabel label = true) :
    label.all isAtomChar = true := by
  unfold isLabel at valid
  exact (Bool.and_eq_true_iff.mp valid).2

/-- Atoms with dots between them have no semicolon. -/
theorem semicolon_of_atoms (atoms : ∀ atom ∈ Idna.labels text, atom.all isAtomChar = true) :
    ';' ∉ text := by
  intro member
  obtain ⟨atom, inside, within⟩ := Text.exists_mem_pieces member (by decide : ';' ≠ '.')
  exact absurd (List.all_eq_true.mp (atoms atom inside) ';' within) (by decide)

theorem bracketed?_eq_some {literal : List Char} (found : bracketed? text = some literal) :
    text = '[' :: (literal ++ [']']) := by
  unfold bracketed? at found
  split at found
  · rename_i shape
    simp only [Bool.and_eq_true, beq_iff_eq, decide_eq_true_eq] at shape
    obtain ⟨⟨head, last⟩, long⟩ := shape
    cases found
    obtain ⟨tail, rfl⟩ := List.head?_eq_some_iff.mp head
    obtain ⟨front, whole⟩ := List.getLast?_eq_some_iff.mp last
    cases front with
    | nil =>
        rw [whole] at long
        simp at long
    | cons c front =>
        obtain ⟨rfl, rfl⟩ := List.cons.inj whole
        simp
  · cases found

/-- With a semicolon in it, a domain stands in brackets, and no more of them open there. -/
theorem bracket_of_isPlainDomain (valid : isPlainDomain domain = true) (member : ';' ∈ domain) :
    ∃ rest, domain = '[' :: rest ∧ ∀ c ∈ rest, c ∉ bracketForms := by
  have close : ']' ∉ bracketForms := by decide
  have notLiteral : ∀ c ∈ bracketForms, isLiteralChar c = false := by decide
  have notIp : ∀ c ∈ bracketForms, isIpChar c = false := by decide
  cases found : bracketed? domain with
  | some literal =>
      refine ⟨literal ++ [']'], bracketed?_eq_some found, ?_⟩
      intro c inside form
      obtain inLiteral | last := List.mem_append.mp inside
      · obtain byName | byNumber := Bool.or_eq_true_iff.mp valid
        · simp only [isName, found, Bool.and_eq_true] at byName
          have literalChar := List.all_eq_true.mp byName.2 c inLiteral
          rw [notLiteral c form] at literalChar
          cases literalChar
        · rw [found, Option.getD_some] at byNumber
          have ipChar := Ip.mem_of_isAddress byNumber c inLiteral
          rw [notIp c form] at ipChar
          cases ipChar
      · rw [List.mem_singleton.mp last] at form
        exact close form
  | none =>
      exfalso
      obtain byName | byNumber := Bool.or_eq_true_iff.mp valid
      · simp only [isName, found, Bool.and_eq_true] at byName
        refine semicolon_of_atoms ?_ member
        intro label inside
        exact atom_of_isLabel (List.all_eq_true.mp byName.2 label inside)
      · rw [found, Option.getD_none] at byNumber
        exact absurd (Ip.mem_of_isAddress byNumber ';' member) (by decide)

/-- If one of the characters kept comes first and alone among them, none is before it and none
like it behind. -/
theorem filter_of_eq_cons {p : Char → Bool} {front back rest : List Char}
    (same : front.filter p ++ c :: back.filter p = c :: rest.filter p) (absent : c ∉ rest) :
    front.filter p = [] ∧ c ∉ back.filter p := by
  have missing : c ∉ rest.filter p := fun member => absent (List.mem_filter.mp member).1
  cases before : front.filter p with
  | nil =>
      rw [before] at same
      exact ⟨rfl, (List.cons.inj same).2 ▸ missing⟩
  | cons d more =>
      rw [before] at same
      refine absurd ?_ missing
      rw [← (List.cons.inj same).2]
      exact List.mem_append_right _ List.mem_cons_self

/-- With a semicolon in it, one character of a domain opens a bracket, no ampersand comes before
it and none like it behind. -/
theorem bracket_of_isDomain (valid : isDomain domain = true) (member : ';' ∈ domain) :
    ∃ first c last, domain = first ++ c :: last ∧ Opens c ∧ '&' ∉ first ∧
      ∀ d ∈ last, ¬ Opens d := by
  obtain plain | ascii := Bool.or_eq_true_iff.mp valid
  · obtain ⟨rest, rfl, others⟩ := bracket_of_isPlainDomain plain member
    refine ⟨[], '[', rest, rfl, Idna.opens_bracket, List.not_mem_nil, ?_⟩
    intro d inside opens
    exact others d inside (Idna.mem_of_opens opens)
  · obtain ⟨ascii, found, plain⟩ := (Option.any_eq_true _ _).mp ascii
    obtain ⟨mapped, made, marks, -⟩ := Idna.toAscii_marks found
    -- The semicolon is in the ASCII form, which therefore stands in brackets.
    have inNormal := Text.mem_normalized_of_wall (by decide)
      (Idna.mem_of_isMark made (by decide) member)
    have inAscii := (Idna.mem_iff_of_marks_eq marks (by decide)).mpr inNormal
    obtain ⟨rest, rfl, others⟩ := bracket_of_isPlainDomain plain inAscii
    have absent : '[' ∉ rest := fun inside => others '[' inside (by decide)
    have kept : mapped.filter (lasting.contains ·) = '[' :: rest.filter (lasting.contains ·) := by
      rw [← Text.normalized_lasting mapped, ← Idna.marks_lasting, ← marks, Idna.marks_lasting]
      rfl
    have bracket : '[' ∈ mapped.filter (lasting.contains ·) := kept ▸ List.mem_cons_self
    -- So is one character of the domain, which cuts it in two.
    obtain ⟨c, inside, opens⟩ := Idna.exists_opens made (List.mem_filter.mp bracket).1
    obtain ⟨first, last, rfl⟩ := List.append_of_mem inside
    obtain ⟨front, back, firstMade, lastMade, rfl⟩ := Idna.mapText?_of_opens opens made
    rw [List.filter_append, List.filter_cons_of_pos (by decide)] at kept
    obtain ⟨none, alone⟩ := filter_of_eq_cons kept absent
    refine ⟨first, c, last, rfl, opens, ?_, ?_⟩
    · intro ampersand
      have inFront := Idna.mem_of_isMark firstMade (by decide) ampersand
      exact List.filter_eq_nil_iff.mp none '&' inFront (by decide)
    · intro d inLast opensToo
      have inBack := Idna.bracket_of_opens lastMade opensToo inLast
      exact alone (List.mem_filter.mpr ⟨inBack, by decide⟩)

end Mail.Address

/-! ## Domains of requests -/

namespace Validation

open Idna (Opens bracketForms)

theorem mem_of_labels (valid : (Idna.labels domain).all isLabel = true) :
    ∀ c ∈ domain, c.isAlphanum = true ∨ c = '-' ∨ c = '.' := by
  intro c member
  by_cases dot : c = '.'
  · exact .inr (.inr dot)
  · obtain ⟨label, inside, within⟩ := Text.exists_mem_pieces member dot
    have ofLabel := List.all_eq_true.mp valid label inside
    simp only [isLabel, Bool.and_eq_true, List.all_eq_true, Bool.or_eq_true, beq_iff_eq] at ofLabel
    exact (ofLabel.1.1.2 c within).imp_right .inl

theorem mem_of_endsInIp (valid : endsInIp domain = true) :
    ∀ c ∈ afterLast '[' domain, isIpChar c = true ∨ c = ']' := by
  unfold endsInIp at valid
  split at valid
  · rename_i backwards shape
    dsimp only at valid
    obtain ⟨opened, -⟩ := Bool.and_eq_true_iff.mp valid
    obtain ⟨more, after⟩ := List.head?_eq_some_iff.mp (beq_iff_eq.mp opened)
    have whole : domain =
        more.reverse ++ '[' :: ((backwards.takeWhile isIpChar).reverse ++ [']']) := by
      have back := List.takeWhile_append_dropWhile (p := isIpChar) (l := backwards)
      generalize backwards.takeWhile isIpChar = taken at back ⊢
      rw [← List.reverse_reverse domain, shape, ← back, after]
      simp
    have taken : ∀ c ∈ (backwards.takeWhile isIpChar).reverse ++ [']'],
        isIpChar c = true ∨ c = ']' := by
      intro c member
      obtain inIp | last := List.mem_append.mp member
      · exact .inl (List.mem_takeWhile_imp (List.mem_reverse.mp inIp))
      · exact .inr (List.mem_singleton.mp last)
    have absent : '[' ∉ (backwards.takeWhile isIpChar).reverse ++ [']'] := by
      intro member
      exact absurd (taken '[' member) (by decide)
    rw [whole, Text.afterLast_append_mark _ absent]
    exact taken
  · cases valid

/-- The check takes no domain with a mark after the last bracket that is no part of an address. -/
theorem not_isDomain {first last : List Char} (opens : Opens c) (others : ∀ d ∈ last, ¬ Opens d)
    (member : d ∈ last) (mark : Idna.isMark d = true) (foreign : isIpChar d = false)
    (other : d ≠ ']') : isDomain (first ++ c :: last) = false := by
  have noIp : ∀ {e : Char}, e = d ∨ e = '-' → ¬ (isIpChar e = true ∨ e = ']') := by
    rintro e (rfl | rfl)
    · simp [foreign, other]
    · decide
  have noLabel : ¬ (d.isAlphanum = true ∨ d = '-' ∨ d = '.') := by
    simp only [Idna.isMark, Bool.and_eq_true, Bool.not_eq_true', bne_iff_ne] at mark
    simp [mark]
  rw [← Bool.not_eq_true]
  intro valid
  obtain plain | ascii := Bool.or_eq_true_iff.mp valid
  · obtain labels | address := Bool.or_eq_true_iff.mp plain
    · exact noLabel (mem_of_labels labels d (by simp [member]))
    · have absent : '[' ∉ last := fun inside => others '[' inside Idna.opens_bracket
      have after : d ∈ afterLast '[' (first ++ c :: last) := by
        rw [List.append_cons, Text.mem_afterLast_append, Text.afterLast_of_not_mem absent]
        exact .inl member
      exact noIp (.inl rfl) (mem_of_endsInIp address d after)
  · obtain ⟨ascii, found, plain⟩ := (Option.any_eq_true _ _).mp ascii
    obtain ⟨mapped, made, marks, hyphen⟩ := Idna.toAscii_marks found
    obtain ⟨front, back, -, lastMade, rfl⟩ := Idna.mapText?_of_opens opens made
    -- The name that is read has the mark after its last bracket, or something that hides it.
    have absent : '[' ∉ back := by
      intro inside
      obtain ⟨e, inLast, opensToo⟩ := Idna.exists_opens lastMade inside
      exact others e inLast opensToo
    have after : d ∈ afterLast '[' (front ++ '[' :: back) := by
      rw [Text.afterLast_append_mark _ absent]
      exact Idna.mem_of_isMark lastMade mark member
    have bracket : '[' ∈ ascii := by
      refine (Idna.mem_iff_of_marks_eq marks (by decide)).mpr ?_
      exact Text.mem_normalized_of_wall (by decide) (List.mem_append_right _ List.mem_cons_self)
    obtain labels | address := Bool.or_eq_true_iff.mp plain
    · exact absurd (mem_of_labels labels '[' bracket) (by decide)
    · obtain kept | hidden := Text.exists_mem_afterLast_normalized (w := '[') (by decide)
        (Idna.toNat_of_isMark mark) after
      · have inAscii := (Idna.mem_afterLast_of_marks_eq marks (by decide) mark).mpr kept
        exact noIp (.inl rfl) (mem_of_endsInIp address d inAscii)
      · exact noIp (.inr rfl) (mem_of_endsInIp address '-' (hyphen hidden))

end Validation

end Courier
