/-
# Courier.Proofs.Text.Scan -- what is left of a text, and what it stands for

Trimming cuts off blanks and nothing else: a character that is no blank stands in the trimmed
text exactly if it stands in the text (`mem_trim`).  So nothing is left of a text just when it
is all blanks (`trim_eq_nil_iff`).

`pieces` cuts a text at a mark, and putting the mark back between the pieces gives the text
(`intercalate_pieces`).  `afterLast` is what comes after the last mark; of two texts one after
the other it is that of the second, or runs on from the first (`afterLast_append`).

A numeral is digits, at least one, with a plus sign in front of them or without; what it stands
for is the value of its digits in base ten, leading zeros or not.  Reading takes exactly the
numerals whose value is within the bound, for that value (`read_eq_ok_iff`).  The bound is
looked at after every digit, which comes to the same: the value only grows from digit to digit.
-/
import Courier.Text.Scan
import Mathlib.Data.List.TakeWhile
import Mathlib.Tactic.Common

namespace Courier.Text

set_option autoImplicit false

/-! ## White space -/

section Blank

variable {c : Char} {text : List Char}

theorem trimEnd_append (solid : isBlank c = false) (first last : List Char) :
    trimEnd (first ++ c :: last) = first ++ c :: trimEnd last := by
  unfold trimEnd
  rw [List.reverse_append, List.reverse_cons, List.append_assoc, List.singleton_append,
    List.dropWhile_append]
  split
  · rename_i none
    rw [List.isEmpty_iff.mp none, List.dropWhile_cons_of_neg (by simp [solid])]
    simp
  · simp

/-- What is cut off the end of a text is blank. -/
theorem exists_trimEnd (text : List Char) :
    ∃ blanks, text = trimEnd text ++ blanks ∧ ∀ c, isBlank c = false → c ∉ blanks := by
  refine ⟨(text.reverse.takeWhile isBlank).reverse, ?_, ?_⟩
  · unfold trimEnd
    rw [← List.reverse_append, List.takeWhile_append_dropWhile, List.reverse_reverse]
  · intro c solid member
    have blank := List.mem_takeWhile_imp (List.mem_reverse.mp member)
    rw [solid] at blank
    cases blank

theorem mem_trimEnd (solid : isBlank c = false) : c ∈ trimEnd text ↔ c ∈ text := by
  obtain ⟨blanks, trimmed, free⟩ := exists_trimEnd text
  conv_rhs => rw [trimmed]
  simp [free c solid]

theorem mem_trimStart (solid : isBlank c = false) : c ∈ trimStart text ↔ c ∈ text := by
  have absent : c ∉ text.takeWhile isBlank := by
    intro member
    rw [List.mem_takeWhile_imp member] at solid
    cases solid
  conv_rhs => rw [← List.takeWhile_append_dropWhile (p := isBlank) (l := text)]
  rw [List.mem_append, or_iff_right absent, trimStart]

theorem mem_trim (solid : isBlank c = false) : c ∈ trim text ↔ c ∈ text :=
  (mem_trimEnd solid).trans (mem_trimStart solid)

/-- Nothing is left of a text of blanks, and of no other. -/
theorem trim_eq_nil_iff : trim text = [] ↔ ∀ c ∈ text, isBlank c = true := by
  constructor
  · intro nothing c member
    by_contra solid
    have kept : c ∈ trim text := (mem_trim (Bool.not_eq_true _ ▸ solid)).mpr member
    rw [nothing] at kept
    cases kept
  · intro blank
    have start : trimStart text = [] := List.dropWhile_eq_nil_iff.mpr blank
    rw [trim, start]
    rfl

end Blank

/-! ## Marks -/

section Pieces

variable {mark : Char} {text : List Char}

/-- What holds of each character of a list is decided by looking at these, not at all characters
there are. -/
instance decidableForallMem (p : Char → Prop) [DecidablePred p] (text : List Char) :
    Decidable (∀ c ∈ text, p c) :=
  List.decidableBAll p text

theorem pieces_ne_nil (mark : Char) (text : List Char) : pieces mark text ≠ [] := by
  cases text with
  | nil => simp [pieces]
  | cons c rest =>
      unfold pieces
      dsimp only
      split
      · simp
      · split <;> simp

theorem intercalate_cons {mark : Char} {piece : List Char} {more : List (List Char)}
    (rest : more ≠ []) :
    [mark].intercalate (piece :: more) = piece ++ mark :: [mark].intercalate more := by
  obtain ⟨next, later, rfl⟩ := List.exists_cons_of_ne_nil rest
  rw [List.intercalate_cons_cons, List.append_assoc, List.singleton_append]

theorem intercalate_pieces (mark : Char) (text : List Char) :
    [mark].intercalate (pieces mark text) = text := by
  induction text with
  | nil => simp [pieces, List.intercalate]
  | cons c rest ih =>
      have more := pieces_ne_nil mark rest
      unfold pieces
      dsimp only
      split
      · rename_i isMark
        rw [intercalate_cons more, ih, List.nil_append, isMark]
      · obtain ⟨piece, later, cut⟩ := List.exists_cons_of_ne_nil more
        rw [cut] at ih
        simp only [cut]
        cases later with
        | nil => simpa [List.intercalate] using ih
        | cons next later =>
            rw [intercalate_cons (List.cons_ne_nil next later)] at ih ⊢
            rw [← ih, List.cons_append]

/-- Every character but the mark is in one of the pieces. -/
theorem exists_mem_pieces {c : Char} (member : c ∈ text) (other : c ≠ mark) :
    ∃ piece ∈ pieces mark text, c ∈ piece := by
  induction text with
  | nil => cases member
  | cons d rest ih =>
      unfold pieces
      dsimp only
      split
      · rename_i isMark
        obtain rfl | later := List.mem_cons.mp member
        · exact absurd isMark other
        · obtain ⟨piece, inside, within⟩ := ih later
          exact ⟨piece, List.mem_cons_of_mem _ inside, within⟩
      · obtain ⟨first, more, cut⟩ := List.exists_cons_of_ne_nil (pieces_ne_nil mark rest)
        simp only [cut] at ih ⊢
        obtain rfl | later := List.mem_cons.mp member
        · exact ⟨c :: first, List.mem_cons_self, List.mem_cons_self⟩
        · obtain ⟨piece, inside, within⟩ := ih later
          obtain rfl | inside := List.mem_cons.mp inside
          · exact ⟨d :: piece, List.mem_cons_self, List.mem_cons_of_mem d within⟩
          · exact ⟨piece, List.mem_cons_of_mem _ inside, within⟩

/-- What comes after the last mark; without one, all of the text. -/
def afterLast (mark : Char) (text : List Char) : List Char :=
  (text.reverse.takeWhile (· != mark)).reverse

private theorem bne_of_not_mem (absent : mark ∉ text) : ∀ c ∈ text.reverse, (c != mark) = true := by
  intro c member
  rw [bne_iff_ne]
  rintro rfl
  exact absent (List.mem_reverse.mp member)

theorem afterLast_of_not_mem (absent : mark ∉ text) : afterLast mark text = text := by
  unfold afterLast
  rw [List.takeWhile_eq_self_iff.mpr (bne_of_not_mem absent), List.reverse_reverse]

theorem afterLast_append_mark (first : List Char) {last : List Char} (absent : mark ∉ last) :
    afterLast mark (first ++ mark :: last) = last := by
  unfold afterLast
  rw [List.reverse_append, List.reverse_cons, List.append_assoc,
    List.takeWhile_append_of_pos (bne_of_not_mem absent)]
  simp

theorem not_mem_afterLast (mark : Char) (text : List Char) : mark ∉ afterLast mark text := by
  intro member
  have passed := List.mem_takeWhile_imp (List.mem_reverse.mp member)
  simp at passed

/-- A text with a mark in it ends in the last one and what comes after it. -/
theorem exists_eq_afterLast (member : mark ∈ text) :
    ∃ first, text = first ++ mark :: afterLast mark text := by
  obtain ⟨back, front, cut, absent⟩ := List.eq_append_cons_of_mem (List.mem_reverse.mpr member)
  have split : text = front.reverse ++ mark :: back.reverse := by
    rw [← List.reverse_reverse text, cut]
    simp
  have last : afterLast mark text = back.reverse := by
    rw [split]
    exact afterLast_append_mark _ (by simpa using absent)
  exact ⟨front.reverse, by rw [last, split]⟩

/-- The last mark cuts a text in one place. -/
theorem append_mark_inj {first last front back : List Char} (absent : mark ∉ last)
    (missing : mark ∉ back) (same : first ++ mark :: last = front ++ mark :: back) :
    first = front ∧ last = back := by
  have ends := congrArg (afterLast mark) same
  rw [afterLast_append_mark _ absent, afterLast_append_mark _ missing] at ends
  subst ends
  exact ⟨List.append_cancel_right same, rfl⟩

/-- A text with a mark is known by what comes after the last one being shorter. -/
theorem mem_of_afterLast_length (shorter : (afterLast mark text).length < text.length) :
    mark ∈ text := by
  by_contra absent
  rw [afterLast_of_not_mem absent] at shorter
  omega

/-- What comes before the last mark is what is left when it is counted off. -/
theorem take_append_afterLast (member : mark ∈ text) :
    text.take (text.length - (afterLast mark text).length - 1) ++ mark :: afterLast mark text =
      text := by
  obtain ⟨first, cut⟩ := exists_eq_afterLast member
  have size : text.length - (afterLast mark text).length - 1 = first.length := by
    have total := congrArg List.length cut
    simp only [List.length_append, List.length_cons] at total
    omega
  have before : text.take first.length = first := by
    have start := congrArg (List.take first.length) cut
    rwa [List.take_left] at start
  rw [size, before]
  exact cut.symm

theorem take_append_mark (first : List Char) {last : List Char} (absent : mark ∉ last) :
    (first ++ mark :: last).take ((first ++ mark :: last).length - last.length - 1) = first := by
  have cut := @take_append_afterLast mark (first ++ mark :: last) (by simp)
  rw [afterLast_append_mark first absent] at cut
  exact List.append_cancel_right cut

theorem afterLast_append (mark : Char) (first last : List Char) :
    afterLast mark (first ++ last) =
      if mark ∈ last then afterLast mark last else afterLast mark first ++ last := by
  split
  · rename_i member
    obtain ⟨front, split⟩ := exists_eq_afterLast member
    have absent := not_mem_afterLast mark last
    rw [split, ← List.append_assoc, afterLast_append_mark _ absent, afterLast_append_mark _ absent]
  · rename_i absent
    by_cases member : mark ∈ first
    · obtain ⟨front, split⟩ := exists_eq_afterLast member
      have missing : mark ∉ afterLast mark first ++ last := by
        simp [not_mem_afterLast, absent]
      have whole : first ++ last = front ++ mark :: (afterLast mark first ++ last) := by
        rw [← List.cons_append, ← List.append_assoc, ← split]
      rw [whole, afterLast_append_mark _ missing]
    · rw [afterLast_of_not_mem member, afterLast_of_not_mem (by simp [member, absent])]

theorem mem_afterLast_append {c : Char} {first last : List Char} :
    c ∈ afterLast mark (first ++ last) ↔
      c ∈ afterLast mark last ∨ mark ∉ last ∧ c ∈ afterLast mark first := by
  rw [afterLast_append]
  split
  · rename_i member
    simp [member]
  · rename_i absent
    rw [afterLast_of_not_mem absent, List.mem_append, or_comm]
    simp [absent]

theorem mem_of_mem_afterLast {c : Char} (member : c ∈ afterLast mark text) : c ∈ text := by
  unfold afterLast at member
  exact List.mem_reverse.mp ((List.takeWhile_sublist _).subset (List.mem_reverse.mp member))

end Pieces

/-! ## Whole numbers -/

namespace Integer

variable {bound n : Nat} {digits text : List Char}

/-- `text` is digits that stand for `n`, with a plus sign in front of them or without. -/
def Numeral (n : Nat) (text : List Char) : Prop :=
  ∃ digits, digits ≠ [] ∧ (∀ c ∈ digits, c.isDigit = true) ∧
    (text = digits ∨ text = '+' :: digits) ∧ Nat.ofDigitChars 10 digits 0 = n

theorem le_ofDigitChars (digits : List Char) (n : Nat) : n ≤ Nat.ofDigitChars 10 digits n := by
  induction digits generalizing n with
  | nil => exact Nat.le_refl n
  | cons c digits ih =>
      rw [Nat.ofDigitChars_cons]
      exact Nat.le_trans (by omega) (ih _)

theorem readDigits_eq_ok_iff {value : Nat} (fits : value ≤ bound) :
    readDigits bound value digits = .ok n ↔
      (∀ c ∈ digits, c.isDigit = true) ∧ Nat.ofDigitChars 10 digits value = n ∧ n ≤ bound := by
  induction digits generalizing value with
  | nil =>
      simp only [readDigits, Except.ok.injEq, List.not_mem_nil, false_implies, implies_true,
        true_and]
      constructor
      · rintro rfl
        exact ⟨rfl, fits⟩
      · exact fun told => told.1
  | cons c digits ih =>
      rw [readDigits, Nat.ofDigitChars_cons, Nat.mul_comm 10 value, List.forall_mem_cons]
      by_cases digit : c.isDigit = true
      · rw [if_pos digit]
        by_cases beyond : bound < value * 10 + (c.toNat - '0'.toNat)
        · rw [if_pos beyond]
          constructor
          · exact fun told => nomatch told
          · rintro ⟨-, rfl, within⟩
            have grows := le_ofDigitChars digits (value * 10 + (c.toNat - '0'.toNat))
            omega
        · rw [if_neg beyond, ih (Nat.le_of_not_lt beyond)]
          simp only [digit, true_and]
      · rw [if_neg digit]
        constructor
        · exact fun told => nomatch told
        · exact fun told => absurd told.1.1 digit

theorem not_isDigit_plus : ¬ '+'.isDigit = true := by decide

theorem numeral_plus_iff :
    Numeral n ('+' :: digits) ↔
      digits ≠ [] ∧ (∀ c ∈ digits, c.isDigit = true) ∧ Nat.ofDigitChars 10 digits 0 = n := by
  constructor
  · rintro ⟨digits', some, all, same | same, value⟩
    · subst same
      exact absurd (all '+' List.mem_cons_self) not_isDigit_plus
    · cases same
      exact ⟨some, all, value⟩
  · rintro ⟨some, all, value⟩
    exact ⟨digits, some, all, .inr rfl, value⟩

theorem numeral_iff_of_ne_plus {c : Char} (other : c ≠ '+') :
    Numeral n (c :: text) ↔
      (∀ d ∈ c :: text, d.isDigit = true) ∧ Nat.ofDigitChars 10 (c :: text) 0 = n := by
  constructor
  · rintro ⟨digits, some, all, same | same, value⟩
    · subst same
      exact ⟨all, value⟩
    · cases same
      exact absurd rfl other
  · rintro ⟨all, value⟩
    exact ⟨_, List.cons_ne_nil _ _, all, .inl rfl, value⟩

/-- **Reading a whole number takes the numerals within its bound.** -/
theorem read_eq_ok_iff : read bound text = .ok n ↔ Numeral n text ∧ n ≤ bound := by
  cases text with
  | nil =>
      constructor
      · exact fun told => nomatch told
      · rintro ⟨⟨digits, some, -, same | same, -⟩, -⟩
        · exact absurd same.symm some
        · cases same
  | cons c rest =>
      by_cases plus : c = '+'
      · subst plus
        rw [numeral_plus_iff]
        cases rest with
        | nil =>
            constructor
            · exact fun told => nomatch told
            · exact fun told => absurd rfl told.1.1
        | cons first rest =>
            change readDigits bound 0 (first :: rest) = .ok n ↔ _
            rw [readDigits_eq_ok_iff (Nat.zero_le bound)]
            simp only [ne_eq, reduceCtorEq, not_false_eq_true, true_and, and_assoc]
      · have plain : read bound (c :: rest) = readDigits bound 0 (c :: rest) := by
          unfold read
          split <;> simp_all
        rw [plain, readDigits_eq_ok_iff (Nat.zero_le bound), numeral_iff_of_ne_plus plus]
        exact and_assoc.symm

/-- A text stands for one number at most. -/
theorem Numeral.unique {m : Nat} (first : Numeral m text) (second : Numeral n text) : m = n := by
  have read_m := read_eq_ok_iff.mpr ⟨first, Nat.le_max_left m n⟩
  have read_n := read_eq_ok_iff.mpr ⟨second, Nat.le_max_right m n⟩
  exact Except.ok.inj (read_m.symm.trans read_n)

end Integer

end Courier.Text
