/-
# Courier.Proofs.Text.Normal -- what the normal form does to marks

A wall is a mark that nothing composes onto, as the opening square bracket.  Marks beyond ASCII
are sorted and composed on either side of it alone, so taking a text apart (`decomposed`),
sorting it (`ordered`) and composing it (`composed`) all go on either side of a wall for
itself, and so does the three in a row (`recomposed_wall`).

Brackets and ampersands do not come up where there were none, so the normal form has them
where the text does (`normalized_lasting`).  Other marks can be lost, as composing puts one
character in the place of two, but only where it leaves a character beyond ASCII
(`exists_mem_recomposed`).
-/
import Courier.Proofs.Text.Scan
import Courier.Proofs.Text.Tables

namespace Courier.Text

set_option autoImplicit false

variable {w c d : Char} {text : List Char}

/-! ## Taking a text apart -/

/-- The letters of a Korean syllable are beyond ASCII. -/
theorem Syllable.le_of_mem_letters {letters : List Char} (found : letters? c = some letters)
    (member : d ∈ letters) : 128 ≤ d.toNat := by
  have high : ∀ n, 128 ≤ n → n < 0xD800 → 128 ≤ (Char.ofNat n).toNat := by
    intro n low high
    rwa [toNat_ofNat (.inl high)]
  unfold letters? at found
  split at found
  · rename_i within
    have bound : c.toNat - base < 19 * 588 := by
      have last := within.2
      generalize base = start at last ⊢
      omega
    generalize c.toNat - base = i at found bound
    have letter_eq : d = Char.ofNat (leads + i / 588) ∨
        d = Char.ofNat (vowels + i % 588 / 28) ∨ d = Char.ofNat (trails + i % 28) := by
      rw [← Option.some.inj found] at member
      split at member
      · simp only [List.mem_cons, List.not_mem_nil, or_false] at member
        exact member.imp_right .inl
      · simpa using member
    obtain rfl | rfl | rfl := letter_eq
    · exact high _ (by simp only [leads]; omega) (by simp only [leads]; omega)
    · exact high _ (by simp only [vowels]; omega) (by simp only [vowels]; omega)
    · exact high _ (by simp only [trails]; omega) (by simp only [trails]; omega)
  · cases found

theorem toNat_of_lasting : ∀ c ∈ lasting, c.toNat < 128 := by
  decide

theorem parts?_eq_none (ascii : c.toNat < 128) : parts? c = none := if_pos ascii

/-- A bracket or ampersand is no part of another character. -/
theorem parts?_avoid {parts : List Char} (found : parts? c = some parts) (kept : d ∈ lasting) :
    d ∉ parts := by
  unfold parts? at found
  split at found
  · cases found
  · obtain syllable | ⟨-, table⟩ := Option.or_eq_some_iff.mp found
    · intro member
      have high := Syllable.le_of_mem_letters syllable member
      have ascii := toNat_of_lasting d kept
      omega
    · exact decompositions_avoid table kept

theorem decompose_of_ascii (ascii : c.toNat < 128) : decompose c = [c] := by
  rw [decompose, takeApart, parts?_eq_none ascii]

theorem eq_of_mem_takeApart {depth : Nat} (kept : d ∈ lasting)
    (member : d ∈ takeApart parts? depth c) : c = d := by
  induction depth generalizing c with
  | zero => exact (List.mem_singleton.mp member).symm
  | succ depth ih =>
      rw [takeApart] at member
      cases found : parts? c with
      | some parts =>
          simp only [found] at member
          obtain ⟨part, inside, within⟩ := List.mem_flatMap.mp member
          obtain rfl := ih within
          exact absurd inside (parts?_avoid found kept)
      | none =>
          simp only [found] at member
          exact (List.mem_singleton.mp member).symm

theorem decomposed_append (first last : List Char) :
    decomposed (first ++ last) = decomposed first ++ decomposed last :=
  List.flatMap_append

theorem decomposed_wall (ascii : w.toNat < 128) (first last : List Char) :
    decomposed (first ++ w :: last) = decomposed first ++ w :: decomposed last := by
  rw [decomposed_append, decomposed, decomposed, decomposed, List.flatMap_cons,
    decompose_of_ascii ascii, List.singleton_append]

theorem mem_decomposed (ascii : c.toNat < 128) (member : c ∈ text) : c ∈ decomposed text := by
  refine List.mem_flatMap.mpr ⟨c, member, ?_⟩
  rw [decompose_of_ascii ascii]
  exact List.mem_singleton_self c

theorem mem_of_mem_decomposed (kept : d ∈ lasting) (member : d ∈ decomposed text) : d ∈ text := by
  obtain ⟨c, inside, within⟩ := List.mem_flatMap.mp member
  obtain rfl := eq_of_mem_takeApart kept within
  exact inside

/-! ## Sorting marks -/

theorem mem_insertMark {before : List Char} :
    d ∈ insertMark c before ↔ d = c ∨ d ∈ before := by
  induction before with
  | nil => simp [insertMark]
  | cons e before ih =>
      unfold insertMark
      split
      · rw [List.mem_cons, ih, List.mem_cons, or_left_comm]
      · rw [List.mem_cons]

theorem mem_orderFrom {before : List Char} :
    d ∈ orderFrom before text ↔ d ∈ before ∨ d ∈ text := by
  induction text generalizing before with
  | nil => simp [orderFrom]
  | cons c rest ih =>
      unfold orderFrom
      rw [ih, List.mem_cons, ← or_assoc, or_comm (a := d ∈ before)]
      split
      · rw [List.mem_cons]
      · rw [mem_insertMark]

theorem mem_ordered : d ∈ ordered text ↔ d ∈ text := by
  unfold ordered
  rw [mem_orderFrom]
  simp

/-- No mark is put before a character that is no mark itself. -/
theorem insertMark_append (starter : combiningClass w = 0) (before past : List Char) :
    insertMark c (before ++ w :: past) = insertMark c before ++ w :: past := by
  induction before with
  | nil =>
      have kept : insertMark c (w :: past) = c :: w :: past := by
        rw [insertMark, starter, if_neg (Nat.not_lt_zero _)]
      exact kept
  | cons d before ih =>
      rw [List.cons_append, insertMark, insertMark]
      split
      · rw [ih, List.cons_append]
      · rfl

theorem orderFrom_append (starter : combiningClass w = 0) (before past text : List Char) :
    orderFrom (before ++ w :: past) text = past.reverse ++ w :: orderFrom before text := by
  induction text generalizing before with
  | nil => simp [orderFrom]
  | cons c rest ih =>
      unfold orderFrom
      split
      · exact ih (c :: before)
      · rw [insertMark_append starter, ih]

theorem ordered_wall (starter : combiningClass w = 0) (first last : List Char) :
    ordered (first ++ w :: last) = ordered first ++ w :: ordered last := by
  have general : ∀ before,
      orderFrom before (first ++ w :: last) = orderFrom before first ++ w :: ordered last := by
    induction first with
    | nil =>
        intro before
        have pushed : orderFrom before (w :: last) = orderFrom ([] ++ w :: before) last := by
          rw [orderFrom, if_pos starter, List.nil_append]
        exact pushed.trans (orderFrom_append starter [] before last)
    | cons c rest ih =>
        intro before
        rw [List.cons_append, orderFrom, orderFrom]
        exact ih _
  exact general []

/-! ## Composing -/

theorem joined?_eq_some {starter joined : Char} {marks : List Char}
    (found : joined? starter marks c = some joined) :
    starter ∉ walls ∧ 128 ≤ c.toNat ∧ 128 ≤ joined.toNat := by
  unfold joined? at found
  split at found
  · exact compose?_eq_some found
  · split at found
    · exact compose?_eq_some found
    · cases found

theorem composeFrom_nil (starter : Char) (marks : List Char) :
    composeFrom starter marks [] = starter :: marks.reverse :=
  rfl

theorem composeFrom_cons (starter c : Char) (marks rest : List Char) :
    composeFrom starter marks (c :: rest) =
      match joined? starter marks c with
      | some joined => composeFrom joined marks rest
      | none =>
          if combiningClass c = 0 then starter :: marks.reverse ++ composeFrom c [] rest
          else composeFrom starter (c :: marks) rest :=
  rfl

/-- A character composes, begins a new letter, or is one more mark. -/
theorem composeFrom_cases (starter c : Char) (marks : List Char) :
    (∃ joined : Char, 128 ≤ joined.toNat ∧ 128 ≤ c.toNat ∧ starter ∉ walls ∧
      ∀ rest, composeFrom starter marks (c :: rest) = composeFrom joined marks rest) ∨
    (combiningClass c = 0 ∧ ∀ rest,
      composeFrom starter marks (c :: rest) = starter :: marks.reverse ++ composeFrom c [] rest) ∨
    (combiningClass c ≠ 0 ∧ ∀ rest,
      composeFrom starter marks (c :: rest) = composeFrom starter (c :: marks) rest) := by
  cases found : joined? starter marks c with
  | some joined =>
      obtain ⟨free, second, high⟩ := joined?_eq_some found
      exact .inl ⟨joined, high, second, free, fun rest => by rw [composeFrom_cons, found]⟩
  | none =>
      by_cases starts : combiningClass c = 0
      · exact .inr (.inl ⟨starts, fun rest => by simp only [composeFrom_cons, found, if_pos starts]⟩)
      · exact .inr (.inr ⟨starts, fun rest => by simp only [composeFrom_cons, found, if_neg starts]⟩)

/-- Composing onto a wall leaves it alone. -/
theorem composeFrom_of_wall (wall : w ∈ walls) (marks text : List Char) :
    composeFrom w marks text = w :: marks.reverse ++ composed text := by
  induction text generalizing marks with
  | nil => rw [composeFrom_nil, composed, List.append_nil]
  | cons c rest ih =>
      obtain ⟨joined, -, -, free, -⟩ | ⟨starts, step⟩ | ⟨follows, step⟩ :=
        composeFrom_cases w c marks
      · exact absurd wall free
      · rw [step, composed, if_pos starts]
      · rw [step, ih, composed, if_neg follows]
        simp

theorem composeFrom_append (wall : w ∈ walls) (starter : Char) (marks first last : List Char) :
    composeFrom starter marks (first ++ w :: last) =
      composeFrom starter marks first ++ w :: composed last := by
  have ascii := toNat_of_wall w wall
  induction first generalizing starter marks with
  | nil =>
      obtain ⟨joined, -, high, -⟩ | ⟨-, step⟩ | ⟨follows, -⟩ := composeFrom_cases starter w marks
      · omega
      · rw [List.nil_append, step, composeFrom_of_wall wall, composeFrom_nil]
        rfl
      · exact absurd (combiningClass_of_ascii ascii) follows
  | cons c rest ih =>
      rw [List.cons_append]
      obtain ⟨joined, -, -, -, step⟩ | ⟨-, step⟩ | ⟨-, step⟩ := composeFrom_cases starter c marks
      · rw [step, step, ih]
      · rw [step, step, ih, List.append_assoc]
      · rw [step, step, ih]

theorem composed_wall (wall : w ∈ walls) (first last : List Char) :
    composed (first ++ w :: last) = composed first ++ w :: composed last := by
  induction first with
  | nil =>
      have starts : composed (w :: last) = composeFrom w [] last := by
        rw [composed, if_pos (combiningClass_of_ascii (toNat_of_wall w wall))]
      exact starts.trans (composeFrom_of_wall wall [] last)
  | cons c rest ih =>
      rw [List.cons_append, composed, composed]
      split
      · exact composeFrom_append wall c [] rest last
      · rw [ih, List.cons_append]

theorem mem_of_mem_composeFrom {starter : Char} {marks : List Char}
    (member : d ∈ composeFrom starter marks text) :
    128 ≤ d.toNat ∨ d = starter ∨ d ∈ marks ∨ d ∈ text := by
  induction text generalizing starter marks with
  | nil =>
      rw [composeFrom_nil, List.mem_cons, List.mem_reverse] at member
      exact .inr (member.imp_right .inl)
  | cons c rest ih =>
      obtain ⟨joined, high, -, -, step⟩ | ⟨-, step⟩ | ⟨-, step⟩ := composeFrom_cases starter c marks
      · rw [step] at member
        obtain high | rfl | inside | inside := ih member
        · exact .inl high
        · exact .inl ‹_›
        · exact .inr (.inr (.inl inside))
        · exact .inr (.inr (.inr (List.mem_cons_of_mem c inside)))
      · rw [step, List.mem_append, List.mem_cons, List.mem_reverse] at member
        obtain (rfl | inside) | member := member
        · exact .inr (.inl rfl)
        · exact .inr (.inr (.inl inside))
        · obtain high | rfl | inside | inside := ih member
          · exact .inl high
          · exact .inr (.inr (.inr List.mem_cons_self))
          · cases inside
          · exact .inr (.inr (.inr (List.mem_cons_of_mem c inside)))
      · rw [step] at member
        obtain high | rfl | inside | inside := ih member
        · exact .inl high
        · exact .inr (.inl rfl)
        · obtain rfl | inside := List.mem_cons.mp inside
          · exact .inr (.inr (.inr List.mem_cons_self))
          · exact .inr (.inr (.inl inside))
        · exact .inr (.inr (.inr (List.mem_cons_of_mem c inside)))

/-- Composing makes only characters beyond ASCII. -/
theorem mem_of_mem_composed (member : d ∈ composed text) : 128 ≤ d.toNat ∨ d ∈ text := by
  induction text with
  | nil => cases member
  | cons c rest ih =>
      rw [composed] at member
      split at member
      · obtain high | rfl | inside | inside := mem_of_mem_composeFrom member
        · exact .inl high
        · exact .inr List.mem_cons_self
        · cases inside
        · exact .inr (List.mem_cons_of_mem c inside)
      · obtain rfl | member := List.mem_cons.mp member
        · exact .inr List.mem_cons_self
        · exact (ih member).imp_right (List.mem_cons_of_mem c)

theorem composeFrom_eq_or (starter : Char) (marks text : List Char) :
    composeFrom starter marks text = starter :: marks.reverse ++ text ∨
      ∃ d ∈ composeFrom starter marks text, 128 ≤ d.toNat := by
  induction text generalizing starter marks with
  | nil => exact .inl (by rw [composeFrom_nil, List.append_nil])
  | cons c rest ih =>
      obtain ⟨joined, high, -, -, step⟩ | ⟨-, step⟩ | ⟨-, step⟩ := composeFrom_cases starter c marks
      · obtain same | found := ih joined marks
        · refine .inr ⟨joined, ?_, high⟩
          rw [step, same]
          exact List.mem_cons_self
        · exact .inr (step rest ▸ found)
      · obtain same | ⟨d, member, high⟩ := ih c []
        · exact .inl (by rw [step, same]; rfl)
        · refine .inr ⟨d, ?_, high⟩
          rw [step]
          exact List.mem_append_right _ member
      · obtain same | found := ih starter (c :: marks)
        · exact .inl (by rw [step, same]; simp)
        · exact .inr (step rest ▸ found)

/-- If composing makes nothing, it leaves the text as it is. -/
theorem composed_eq_or (text : List Char) :
    composed text = text ∨ ∃ d ∈ composed text, 128 ≤ d.toNat := by
  induction text with
  | nil => exact .inl rfl
  | cons c rest ih =>
      rw [composed]
      split
      · exact composeFrom_eq_or c [] rest
      · obtain same | ⟨d, member, high⟩ := ih
        · exact .inl (by rw [same])
        · exact .inr ⟨d, List.mem_cons_of_mem c member, high⟩

/-! ## The normal form -/

/-- A text taken apart, sorted and composed. -/
def recomposed (text : List Char) : List Char := composed (ordered (decomposed text))

theorem normalized_eq_or (text : List Char) :
    normalized text = text ∨ normalized text = recomposed text := by
  unfold normalized
  split
  · exact .inl rfl
  · exact .inr rfl

theorem recomposed_wall (wall : w ∈ walls) (first last : List Char) :
    recomposed (first ++ w :: last) = recomposed first ++ w :: recomposed last := by
  have ascii := toNat_of_wall w wall
  unfold recomposed
  rw [decomposed_wall ascii, ordered_wall (combiningClass_of_ascii ascii), composed_wall wall]

theorem mem_of_mem_recomposed (kept : d ∈ lasting) (member : d ∈ recomposed text) : d ∈ text := by
  obtain high | inside := mem_of_mem_composed member
  · have ascii := toNat_of_lasting d kept
    omega
  · exact mem_of_mem_decomposed kept (mem_ordered.mp inside)

/-- A mark is lost only where a character beyond ASCII comes up. -/
theorem exists_mem_recomposed (ascii : c.toNat < 128) (member : c ∈ text) :
    c ∈ recomposed text ∨ ∃ d ∈ recomposed text, 128 ≤ d.toNat := by
  obtain same | found := composed_eq_or (ordered (decomposed text))
  · refine .inl ?_
    rw [recomposed, same, mem_ordered]
    exact mem_decomposed ascii member
  · exact .inr found

theorem wall_of_lasting : ∀ c ∈ lasting, c ∈ walls := by
  decide

/-- Brackets and ampersands stay as they are. -/
theorem recomposed_lasting (text : List Char) :
    (recomposed text).filter (lasting.contains ·) = text.filter (lasting.contains ·) := by
  by_cases some : ∃ w ∈ text, w ∈ lasting
  · obtain ⟨w, member, kept⟩ := some
    obtain ⟨first, last, cut⟩ := List.append_of_mem member
    have shorter : first.length < text.length ∧ last.length < text.length := by
      simp only [cut, List.length_append, List.length_cons]
      omega
    have keeps : lasting.contains w = true := List.contains_iff_mem.mpr kept
    rw [cut, recomposed_wall (wall_of_lasting w kept), List.filter_append, List.filter_append,
      List.filter_cons_of_pos keeps, List.filter_cons_of_pos keeps, recomposed_lasting first,
      recomposed_lasting last]
  · have none : ∀ d ∈ text, ¬ lasting.contains d = true := by
      intro d member keeps
      exact some ⟨d, member, List.contains_iff_mem.mp keeps⟩
    have noneAfter : ∀ d ∈ recomposed text, ¬ lasting.contains d = true := by
      intro d member keeps
      exact none d (mem_of_mem_recomposed (List.contains_iff_mem.mp keeps) member) keeps
    rw [List.filter_eq_nil_iff.mpr none, List.filter_eq_nil_iff.mpr noneAfter]
termination_by text.length
decreasing_by
  · exact shorter.1
  · exact shorter.2

/-- What comes after the last bracket is recomposed for itself. -/
theorem afterLast_recomposed (kept : w ∈ lasting) (text : List Char) :
    afterLast w (recomposed text) = recomposed (afterLast w text) := by
  by_cases member : w ∈ text
  · obtain ⟨first, cut⟩ := exists_eq_afterLast member
    have absent : w ∉ recomposed (afterLast w text) := by
      intro inside
      exact not_mem_afterLast w text (mem_of_mem_recomposed kept inside)
    rw [cut, recomposed_wall (wall_of_lasting w kept), afterLast_append_mark _ absent, ← cut]
  · have absent : w ∉ recomposed text := fun inside => member (mem_of_mem_recomposed kept inside)
    rw [afterLast_of_not_mem absent, afterLast_of_not_mem member]

theorem normalized_lasting (text : List Char) :
    (normalized text).filter (lasting.contains ·) = text.filter (lasting.contains ·) := by
  obtain same | same := normalized_eq_or text
  · rw [same]
  · rw [same, recomposed_lasting]

theorem mem_normalized_of_wall (wall : w ∈ walls) (member : w ∈ text) : w ∈ normalized text := by
  obtain same | same := normalized_eq_or text
  · rwa [same]
  · obtain ⟨first, last, rfl⟩ := List.append_of_mem member
    rw [same, recomposed_wall wall]
    exact List.mem_append_right _ List.mem_cons_self

/-- A mark after the last bracket is lost only where a character beyond ASCII comes up there. -/
theorem exists_mem_afterLast_normalized (kept : w ∈ lasting) (ascii : c.toNat < 128)
    (member : c ∈ afterLast w text) :
    c ∈ afterLast w (normalized text) ∨ ∃ d ∈ afterLast w (normalized text), 128 ≤ d.toNat := by
  obtain same | same := normalized_eq_or text
  · rw [same]
    exact .inl member
  · rw [same, afterLast_recomposed kept]
    exact exists_mem_recomposed ascii member

/-! ## Characters that stay as they are -/

/-- A character that is whole, begins a letter and composes with none before it. -/
structure Stable (c : Char) : Prop where
  whole : parts? c = none
  starts : combiningClass c = 0
  apart : ∀ before, compose? before c = none

theorem stable_of_ascii (ascii : c.toNat < 128) : Stable c where
  whole := parts?_eq_none ascii
  starts := combiningClass_of_ascii ascii
  apart := by
    intro before
    cases found : compose? before c with
    | none => rfl
    | some joined =>
        obtain ⟨-, high, -⟩ := compose?_eq_some found
        omega

theorem stable_sigma : Stable 'σ' where
  whole := by
    rw [parts?, if_neg (by decide), decompositions_sigma]
    rfl
  starts := combiningClass_sigma
  apart := compose?_sigma

theorem composeFrom_of_stable (stable : ∀ c ∈ text, Stable c) (starter : Char) :
    composeFrom starter [] text = starter :: text := by
  induction text generalizing starter with
  | nil => rfl
  | cons c rest ih =>
      have here := stable c List.mem_cons_self
      have apart : joined? starter [] c = none := here.apart starter
      rw [composeFrom_cons, apart, if_pos here.starts,
        ih fun d member => stable d (List.mem_cons_of_mem c member)]
      rfl

/-- A text of such characters is its own normal form. -/
theorem normalized_of_stable (stable : ∀ c ∈ text, Stable c) : normalized text = text := by
  have whole : decomposed text = text := by
    induction text with
    | nil => rfl
    | cons c rest ih =>
        have here : decompose c = [c] := by
          rw [decompose, takeApart, (stable c List.mem_cons_self).whole]
        have later := ih fun d member => stable d (List.mem_cons_of_mem c member)
        unfold decomposed at later ⊢
        rw [List.flatMap_cons, here, later]
        rfl
  have sorted : ∀ before, orderFrom before text = before.reverse ++ text := by
    clear whole
    induction text with
    | nil => simp [orderFrom]
    | cons c rest ih =>
        intro before
        rw [orderFrom, if_pos (stable c List.mem_cons_self).starts,
          ih fun d member => stable d (List.mem_cons_of_mem c member)]
        simp
  have composes : composed text = text := by
    cases text with
    | nil => rfl
    | cons c rest =>
        rw [composed, if_pos (stable c List.mem_cons_self).starts]
        exact composeFrom_of_stable (fun d member => stable d (List.mem_cons_of_mem c member)) c
  obtain same | same := normalized_eq_or text
  · exact same
  · rw [same, recomposed, whole, ordered, sorted]
    exact composes

end Courier.Text
