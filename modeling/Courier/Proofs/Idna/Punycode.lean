/-
# Courier.Proofs.Idna.Punycode -- what Punycode leaves as it is

A text in Punycode is the ASCII characters of its label, a hyphen if there are any, and then
letters and digits (`Writes`).  So it is both for what `encode` writes (`encode_writes`) and
for what `decode` reads (`writes_of_decode`), and marks other than the hyphen are in such a
text exactly where they are in the label (`Writes.marks_eq`).
-/
import Courier.Idna.Punycode
import Courier.Proofs.Text.Scan
import Courier.Proofs.Text.Tables

namespace Courier.Idna

set_option autoImplicit false

variable {c : Char} {label text : List Char}

/-! ## Marks -/

/-- A mark in ASCII that has no part in how names are written. -/
def isMark (c : Char) : Bool := decide (c.toNat < 128) && !c.isAlphanum && c != '-' && c != '.'

theorem toNat_of_isMark (mark : isMark c = true) : c.toNat < 128 := by
  simp only [isMark, Bool.and_eq_true, decide_eq_true_eq] at mark
  exact mark.1.1.1

/-- The marks in a text. -/
def marks (text : List Char) : List Char := text.filter isMark

theorem marks_append (first last : List Char) :
    marks (first ++ last) = marks first ++ marks last :=
  List.filter_append ..

theorem not_isMark_of_alphanum (alphanum : c.isAlphanum = true) : isMark c = false := by
  simp [isMark, alphanum]

theorem toNat_of_alphanum (alphanum : c.isAlphanum = true) : c.toNat < 128 := by
  have below : ∀ {d : Char}, d.toNat < 128 → c.val ≤ d.val → c.toNat < 128 :=
    fun high bound => Nat.lt_of_le_of_lt (UInt32.le_iff_toNat_le.mp bound) high
  obtain letter | digit := Bool.or_eq_true_iff.mp alphanum
  · obtain upper | lower := Bool.or_eq_true_iff.mp letter
    · exact below (d := 'Z') (by decide) (of_decide_eq_true upper).2
    · exact below (d := 'z') (by decide) (of_decide_eq_true (Bool.and_eq_true_iff.mp lower).2)
  · exact below (d := '9') (by decide) (of_decide_eq_true (Bool.and_eq_true_iff.mp digit).2)

theorem marks_of_alphanum (alphanum : ∀ d ∈ text, d.isAlphanum = true) : marks text = [] :=
  List.filter_eq_nil_iff.mpr fun d member => by
    simp [not_isMark_of_alphanum (alphanum d member)]

/-- Marks are ASCII characters. -/
theorem marks_filter_ascii (text : List Char) : marks (text.filter (·.toNat < 128)) = marks text := by
  unfold marks
  rw [List.filter_filter]
  refine List.filter_congr ?_
  intro c _
  by_cases ascii : c.toNat < 128 <;> simp [isMark, ascii]

namespace Punycode

/-! ## Digits -/

theorem digitChar_alphanum : ∀ n < 36, (digitChar n).isAlphanum = true := by
  decide

theorem alphanum_of_digit? {d : Nat} (read : digit? c = some d) : c.isAlphanum = true := by
  unfold digit? at read
  refine Bool.or_eq_true_iff.mpr ?_
  split at read
  · rename_i lower
    have isLower : c.isLower = true :=
      Bool.and_eq_true_iff.mpr ⟨decide_eq_true lower.1, decide_eq_true lower.2⟩
    exact .inl (Bool.or_eq_true_iff.mpr (.inr isLower))
  · split at read
    · rename_i upper
      exact .inl (Bool.or_eq_true_iff.mpr (.inl (decide_eq_true upper)))
    · split at read
      · rename_i digit
        exact .inr digit
      · cases read

theorem threshold_le (k bias : Nat) : threshold k bias ≤ 26 := by
  unfold threshold
  split
  · omega
  · split <;> omega

theorem deltaDigits_alphanum {bias fuel k q : Nat} :
    ∀ d ∈ deltaDigits bias fuel k q, d.isAlphanum = true := by
  induction fuel generalizing k q with
  | zero => exact fun d member => nomatch member
  | succ fuel ih =>
      intro d member
      have small := threshold_le k bias
      unfold deltaDigits at member
      dsimp only at member
      split at member
      · rw [List.mem_singleton.mp member]
        exact digitChar_alphanum q (by omega)
      · obtain rfl | member := List.mem_cons.mp member
        · refine digitChar_alphanum _ ?_
          have room : 0 < base - threshold k bias := by
            simp only [base]
            omega
          have digit := Nat.mod_lt (q - threshold k bias) room
          simp only [base] at digit
          simp only [base]
          omega
        · exact ih d member

/-- Reading a distance takes digits. -/
theorem readDelta_eq_some {bias k weight value n : Nat} {rest : List Char}
    (read : readDelta bias k weight value text = some (n, rest)) :
    ∃ digits, (∀ d ∈ digits, d.isAlphanum = true) ∧ text = digits ++ rest := by
  induction text generalizing k weight value with
  | nil => cases read
  | cons c text ih =>
      unfold readDelta at read
      obtain ⟨d, digit, read⟩ := Option.bind_eq_some_iff.mp read
      have alphanum := alphanum_of_digit? digit
      dsimp only at read
      split at read
      · cases read
        exact ⟨[c], by simpa using alphanum, rfl⟩
      · obtain ⟨digits, all, rfl⟩ := ih read
        exact ⟨c :: digits, by simpa using ⟨alphanum, all⟩, rfl⟩

/-! ## Texts and their labels -/

/-- What a text begins with: the ASCII characters of the label, and a hyphen after them. -/
def front (label : List Char) : List Char :=
  let plain := label.filter (·.toNat < 128)
  if plain.isEmpty then [] else plain ++ ['-']

/-- A text begins this way and goes on in letters and digits. -/
def Writes (text label : List Char) : Prop :=
  ∃ digits, (∀ d ∈ digits, d.isAlphanum = true) ∧ text = front label ++ digits

theorem toNat_of_mem_front (member : c ∈ front label) : c.toNat < 128 := by
  unfold front at member
  dsimp only at member
  split at member
  · cases member
  · obtain plain | hyphen := List.mem_append.mp member
    · simpa using (List.mem_filter.mp plain).2
    · rw [List.mem_singleton.mp hyphen]
      decide

theorem marks_front (label : List Char) : marks (front label) = marks label := by
  have hyphen : marks ['-'] = [] := by decide
  rw [← marks_filter_ascii label]
  unfold front
  dsimp only
  split
  · rename_i none
    rw [List.isEmpty_iff.mp none]
  · rw [marks_append, hyphen, List.append_nil]

theorem Writes.ascii (writes : Writes text label) : ∀ c ∈ text, c.toNat < 128 := by
  obtain ⟨digits, all, rfl⟩ := writes
  intro c member
  obtain inFront | inside := List.mem_append.mp member
  · exact toNat_of_mem_front inFront
  · exact toNat_of_alphanum (all c inside)

theorem Writes.marks_eq (writes : Writes text label) : marks text = marks label := by
  obtain ⟨digits, all, rfl⟩ := writes
  rw [marks_append, marks_front, marks_of_alphanum all, List.append_nil]

/-! ## Writing -/

/-- What is written, backwards, has letters and digits before what was there. -/
def Extends (start output : List Char) : Prop :=
  ∃ digits, (∀ d ∈ digits, d.isAlphanum = true) ∧ output = digits ++ start

theorem Extends.refl (start : List Char) : Extends start start :=
  ⟨[], by simp, rfl⟩

theorem writeRound_extends {start : List Char} {plain n : Nat} {w : Writing}
    (extended : Extends start w.output) (c : Char) :
    Extends start (writeRound plain n w c).output := by
  unfold writeRound
  split
  · exact extended
  · split
    · obtain ⟨digits, all, same⟩ := extended
      refine ⟨(deltaDigits w.bias (w.delta + 2) base w.delta).reverse ++ digits, ?_, ?_⟩
      · intro d member
        obtain new | old := List.mem_append.mp member
        · exact deltaDigits_alphanum d (List.mem_reverse.mp new)
        · exact all d old
      · rw [List.reverseAux_eq, same, List.append_assoc]
    · exact extended

theorem foldl_writeRound_extends {start : List Char} {plain n : Nat} {w : Writing}
    (extended : Extends start w.output) (label : List Char) :
    Extends start (label.foldl (writeRound plain n) w).output := by
  induction label generalizing w with
  | nil => exact extended
  | cons c rest ih => exact ih (writeRound_extends extended c)

theorem writeAll_extends {start label : List Char} {plain n : Nat} {codes : List Nat} {w : Writing}
    (extended : Extends start w.output) :
    Extends start (writeAll label plain codes n w).output := by
  induction codes generalizing n w with
  | nil => exact extended
  | cons code codes ih =>
      unfold writeAll
      exact ih (foldl_writeRound_extends (by exact extended) label)

theorem encode_writes (label : List Char) : Writes (encode label) label := by
  unfold encode Writes front
  dsimp only
  generalize label.filter (·.toNat < 128) = plain
  generalize ((label.filter (128 ≤ ·.toNat)).map Char.toNat).eraseDups.mergeSort = codes
  have extended : Extends (if plain.isEmpty then [] else '-' :: plain.reverse)
      (writeAll label plain.length codes 128
        ⟨if plain.isEmpty then [] else '-' :: plain.reverse, 0, 72, plain.length⟩).output :=
    writeAll_extends (Extends.refl _)
  obtain ⟨digits, all, written⟩ := extended
  refine ⟨digits.reverse, by simpa using all, ?_⟩
  rw [written, List.reverse_append]
  split <;> simp

/-! ## Reading -/

theorem insertAll_eq_some {output : List Char} {n i bias : Nat} {first : Bool} (high : 128 ≤ n)
    (read : insertAll output n i bias first text = some label) :
    (∀ d ∈ text, d.isAlphanum = true) ∧
      label.filter (·.toNat < 128) = output.filter (·.toNat < 128) := by
  fun_induction insertAll output n i bias first text with
  | case1 output n i bias first =>
      cases read
      exact ⟨by simp, rfl⟩
  | case2 => cases read
  | case3 output n i bias first c more j rest taken points code place valid ih =>
      obtain ⟨digits, all, cut⟩ := readDelta_eq_some taken
      have low : 128 ≤ code := Nat.le_trans high (Nat.le_add_right n _)
      obtain ⟨after, same⟩ := ih low read
      refine ⟨?_, ?_⟩
      · rw [cut]
        intro d member
        exact (List.mem_append.mp member).elim (all d) (after d)
      · have beyond : ¬ (Char.ofNat code).toNat < 128 := by
          rw [Text.toNat_ofNat (by omega)]
          omega
        rw [same, List.filter_append, List.filter_cons_of_neg (by simpa using beyond),
          ← List.filter_append, List.take_append_drop]
  | case4 => cases read

theorem writes_of_decode (read : decode text = some label) : Writes text label := by
  have opened : decode text =
      let plain := text.take (text.length - (Text.afterLast '-' text).length - 1)
      let extended := if plain.isEmpty then text else Text.afterLast '-' text
      if plain.all (·.toNat < 128) then insertAll plain 128 0 72 true extended else none := rfl
  rw [opened] at read
  dsimp only at read
  split at read
  · rename_i plainAscii
    obtain ⟨all, same⟩ := insertAll_eq_some (Nat.le_refl 128) read
    have plain_eq : label.filter (·.toNat < 128) =
        text.take (text.length - (Text.afterLast '-' text).length - 1) :=
      same.trans (List.filter_eq_self.mpr (List.all_eq_true.mp plainAscii))
    unfold Writes front
    rw [plain_eq]
    dsimp only
    split at all
    · rename_i none
      rw [if_pos none]
      exact ⟨text, all, rfl⟩
    · rename_i some
      rw [if_neg some]
      have hyphen : '-' ∈ text := by
        by_contra absent
        rw [Text.afterLast_of_not_mem absent] at some
        simp at some
      refine ⟨Text.afterLast '-' text, all, ?_⟩
      rw [List.append_assoc]
      exact (Text.take_append_afterLast hyphen).symm
  · cases read

end Punycode

end Courier.Idna
