/-
# Courier.Proofs.Text.Tables -- what the tables of characters say of a few of them

A table is read from blocks of text, so what holds of all its rows is checked block by block
(`Hold`).  A look-up answers with one of the rows (`Table.mem_of_find?`), and a map sends a
character to a text with a given character in it only if a row says so (`yields`).

Of the tables this is used for: lower case (`lowerMap_avoids`), the characters replaced in
domain names (`replacedCharacters_bracket`), canonical decomposition (`decompositions_avoid`),
combining classes (`combiningClass_of_ascii`) and composition (`compose?_eq_some`).  Apart from
the square bracket itself only its fullwidth and its vertical form have to do with it.

The small sigma is a letter like others: it neither comes apart nor goes onto another, and it
may stand in a name.
-/
import Courier.Idna.Mapping
import Courier.Proofs.Text.Scan
import Courier.Text.Alphanumeric
import Courier.Text.Lowercase
import Courier.Text.Normal

namespace Courier.Text

set_option autoImplicit false

/-! ## Rows of a table -/

namespace Table

/-- A look-up answers with a row that the code point falls into. -/
theorem mem_of_bisect {t : Table} {code low high : Nat} {row : Row}
    (found : t.bisect code low high = some row) :
    row ∈ t ∧ row.first ≤ code ∧ code ≤ row.last := by
  fun_induction bisect t code low high with
  | case1 | case5 => cases found
  | case2 low high room middle row' at_ below ih => exact ih found
  | case3 low high room middle row' at_ notBelow above ih => exact ih found
  | case4 low high room middle row' at_ notBelow notAbove =>
      cases found
      exact ⟨Array.mem_of_getElem? at_, by omega, by omega⟩

theorem mem_of_find? {t : Table} {c : Char} {row : Row} (found : t.find? c = some row) :
    row ∈ t ∧ row.first ≤ c.toNat ∧ c.toNat ≤ row.last :=
  mem_of_bisect found

end Table

/-- A table in one piece, given by its characters. -/
theorem Table.ofText_ofList (text : List Char) :
    Table.ofText (String.ofList text) = (rowsFrom [] none text).toArray := by
  rw [ofText, rows, String.toList_ofList]

/-- All rows of some blocks have a property. -/
def Hold (p : Row → Bool) (blocks : List String) : Prop :=
  ∀ block ∈ blocks, (Table.rows block).all p = true

namespace Hold

variable {p : Row → Bool}

theorem nil : Hold p [] := fun _ member => nomatch member

/-- The block is given by its characters, of which its rows are computed. -/
theorem cons {block : List Char} {blocks : List String}
    (first : (Table.rowsFrom [] none block).all p = true) (rest : Hold p blocks) :
    Hold p (String.ofList block :: blocks) := by
  intro other member
  cases member with
  | head =>
      rw [Table.rows, String.toList_ofList]
      exact first
  | tail _ later => exact rest other later

theorem append {blocks more : List String} (first : Hold p blocks) (last : Hold p more) :
    Hold p (blocks ++ more) := by
  intro block member
  obtain member | member := List.mem_append.mp member
  · exact first block member
  · exact last block member

/-- What holds of the rows in the blocks holds of those of the table. -/
theorem table {blocks : List String} (hold : Hold p blocks) :
    ∀ row ∈ Table.ofBlocks blocks, p row = true := by
  intro row member
  unfold Table.ofBlocks at member
  obtain ⟨block, inside, member⟩ := List.mem_flatMap.mp (List.mem_toArray.mp member)
  exact List.all_eq_true.mp (hold block inside) row member

end Hold

/-! ## Characters in the texts of a map -/

theorem toNat_ofNat {n : Nat} (valid : n.isValidChar) : (Char.ofNat n).toNat = n := by
  unfold Char.ofNat
  rw [dif_pos valid]
  rfl

/-- A number that stands for a character other than the zero character. -/
theorem eq_toNat_of_ofNat {n : Nat} {c : Char} (same : Char.ofNat n = c) (nonzero : c ≠ '\x00') :
    n = c.toNat := by
  subst same
  by_cases valid : n.isValidChar
  · exact (toNat_ofNat valid).symm
  · have zero : Char.ofNat n = '\x00' := by
      unfold Char.ofNat
      rw [dif_neg valid]
      rfl
    exact absurd zero nonzero

/-- A row of a map that sends characters to a text with `target` in it for no others than
the given sources, and these to that character alone. -/
def yields (target : Nat) (sources : List Nat) (row : Row) : Bool :=
  match row.data with
  | _ :: first :: rest =>
      !rest.contains target &&
        (decide (target < first ∨ first + (row.last - row.first) < target) ||
          (sources.contains (row.first + (target - first)) && rest.isEmpty))
  | _ => true

/-- A row that a code point does not fall into. -/
def misses (code : Nat) (row : Row) : Bool := decide (code < row.first ∨ row.last < code)

theorem eq_of_yields {row : Row} {target : Char} {sources : List Nat} {code : Nat}
    {text : List Char} (test : yields target.toNat sources row = true) (nonzero : target ≠ '\x00')
    (within : row.first ≤ code ∧ code ≤ row.last) (applied : CharMap.apply row code = some text)
    (member : target ∈ text) : code ∈ sources ∧ text = [target] := by
  obtain ⟨first, last, data⟩ := row
  match data with
  | [] => simp [CharMap.apply] at applied
  | [step] =>
      simp only [CharMap.apply] at applied
      split at applied
      · cases applied
        cases member
      · cases applied
  | step :: number :: rest =>
      simp only [CharMap.apply] at applied
      split at applied
      · cases applied
        simp only [yields, Bool.and_eq_true, Bool.or_eq_true, decide_eq_true_eq,
          Bool.not_eq_true', List.contains_eq_mem, decide_eq_false_iff_not, List.isEmpty_iff]
          at test
        obtain ⟨absent, place⟩ := test
        have notLater : target ∉ rest.map Char.ofNat := by
          intro later
          obtain ⟨n, inside, same⟩ := List.mem_map.mp later
          exact absent (eq_toNat_of_ofNat same nonzero ▸ inside)
        obtain same | later := List.mem_cons.mp member
        · have number_eq := eq_toNat_of_ofNat same.symm nonzero
          obtain outside | ⟨source, alone⟩ := place
          · dsimp only at outside within
            omega
          · have code_eq : first + (target.toNat - number) = code := by
              dsimp only at within
              omega
            rw [code_eq] at source
            exact ⟨source, by rw [alone, List.map_nil, same]⟩
        · exact absurd later notLater
      · cases applied

/-- A map sends no others than the given sources to a text with the character in it. -/
theorem CharMap.eq_of_mem {m : CharMap} {target : Char} {sources : List Nat}
    (holds : ∀ row ∈ m.table, yields target.toNat sources row = true) (nonzero : target ≠ '\x00')
    {c : Char} {text : List Char} (found : m.find? c = some text)
    (member : target ∈ text) : c.toNat ∈ sources ∧ text = [target] := by
  obtain ⟨row, at_, applied⟩ := Option.bind_eq_some_iff.mp found
  obtain ⟨inside, within⟩ := Table.mem_of_find? at_
  exact eq_of_yields (holds row inside) nonzero within applied member

/-- A map that says nothing of a character. -/
theorem CharMap.find?_eq_none {m : CharMap} {c : Char}
    (holds : ∀ row ∈ m.table, misses c.toNat row = true) : m.find? c = none := by
  refine Option.bind_eq_none_iff.mpr ?_
  intro row found
  obtain ⟨inside, within⟩ := Table.mem_of_find? found
  have outside := holds row inside
  simp only [misses, decide_eq_true_eq] at outside
  omega

/-! ## Lower case -/

/-- The square bracket that opens, in its fullwidth form and in its vertical one. -/
def fullwidthBracket : Char := '\uFF3B'
def verticalBracket : Char := '\uFE47'

/-- Characters that are in no lower-case form but their own. -/
def caseless : List Char :=
  ['&', '<', '>', '"', '\'', '@', '[', fullwidthBracket, verticalBracket]

/-- Characters of which the lower-case map says nothing. -/
def unmapped : List Char := [fullwidthBracket, verticalBracket, 'σ', 'µ']

/-- A row of the lower-case map keeps away from all of these. -/
def lowerTest (row : Row) : Bool :=
  (caseless.all fun c => yields c.toNat [] row) && unmapped.all fun c => misses c.toNat row

set_option maxRecDepth 10000 in
theorem lowerMap_holds : ∀ row ∈ lowerMap.table, lowerTest row = true := by
  unfold lowerMap CharMap.ofBlocks
  refine Hold.table ?_
  repeat' (apply Hold.cons; · decide +kernel)
  exact .nil

theorem lowerMap_avoids {c d : Char} {text : List Char} (found : lowerMap.find? c = some text)
    (kept : d ∈ caseless) : d ∉ text := by
  intro member
  have nonzero : d ≠ '\x00' := by
    rintro rfl
    revert kept
    decide
  have test : ∀ row ∈ lowerMap.table, yields d.toNat [] row = true := by
    intro row inside
    have holds := lowerMap_holds row inside
    simp only [lowerTest, Bool.and_eq_true, List.all_eq_true] at holds
    exact holds.1 d kept
  exact absurd (CharMap.eq_of_mem test nonzero found member).1 List.not_mem_nil

theorem lowerMap_of_unmapped {c : Char} (bare : c ∈ unmapped) : lowerMap.find? c = none := by
  refine CharMap.find?_eq_none ?_
  intro row inside
  have holds := lowerMap_holds row inside
  simp only [lowerTest, Bool.and_eq_true, List.all_eq_true] at holds
  exact holds.2 c bare

/-! ## Characters replaced in domain names -/

set_option maxRecDepth 10000 in
theorem replacedCharacters_holds : ∀ row ∈ Idna.replacedCharacters.table,
    yields '['.toNat [fullwidthBracket.toNat, verticalBracket.toNat] row = true := by
  unfold Idna.replacedCharacters CharMap.ofBlocks
  refine Hold.table (.append (.append ?_ ?_) ?_)
  · unfold Idna.replacedLow
    repeat' (apply Hold.cons; · decide +kernel)
    exact .nil
  · unfold Idna.replacedWide
    repeat' (apply Hold.cons; · decide +kernel)
    exact .nil
  · unfold Idna.replacedHigh
    repeat' (apply Hold.cons; · decide +kernel)
    exact .nil

/-- Two characters are replaced by a square bracket, and by nothing else. -/
theorem replacedCharacters_bracket {c : Char} {text : List Char}
    (found : Idna.replacedCharacters.find? c = some text) (member : '[' ∈ text) :
    (c = fullwidthBracket ∨ c = verticalBracket) ∧ text = ['['] := by
  obtain ⟨source, alone⟩ :=
    CharMap.eq_of_mem replacedCharacters_holds (by decide) found member
  refine ⟨?_, alone⟩
  simpa [Char.toNat_inj] using source

/-! ## Normal forms -/

/-- Marks that a text has in the same places in its normal form. -/
def lasting : List Char := ['[', '&']

/-- A row of the decompositions keeps away from these, and from the small sigma. -/
def decomposeTest (row : Row) : Bool :=
  (lasting.all fun c => yields c.toNat [] row) && misses 'σ'.toNat row

set_option maxRecDepth 10000 in
theorem decompositions_holds : ∀ row ∈ decompositions.table, decomposeTest row = true := by
  unfold decompositions CharMap.ofBlocks
  refine Hold.table ?_
  repeat' (apply Hold.cons; · decide +kernel)
  exact .nil

theorem decompositions_avoid {c d : Char} {text : List Char}
    (found : decompositions.find? c = some text) (kept : d ∈ lasting) : d ∉ text := by
  intro member
  have nonzero : d ≠ '\x00' := by
    rintro rfl
    revert kept
    decide
  have test : ∀ row ∈ decompositions.table, yields d.toNat [] row = true := by
    intro row inside
    have holds := decompositions_holds row inside
    simp only [decomposeTest, Bool.and_eq_true, List.all_eq_true] at holds
    exact holds.1 d kept
  exact absurd (CharMap.eq_of_mem test nonzero found member).1 List.not_mem_nil

theorem decompositions_sigma : decompositions.find? 'σ' = none := by
  refine CharMap.find?_eq_none ?_
  intro row inside
  have holds := decompositions_holds row inside
  simp only [decomposeTest, Bool.and_eq_true] at holds
  exact holds.2

/-- A character has a class other than zero only beyond ASCII, and the small sigma has none. -/
def combineTest (row : Row) : Bool := decide (128 ≤ row.first) && misses 'σ'.toNat row

set_option maxRecDepth 10000 in
theorem combiningClasses_holds : ∀ row ∈ combiningClasses.table, combineTest row = true := by
  unfold combiningClasses CharClass.ofBlocks
  refine Hold.table ?_
  repeat' (apply Hold.cons; · decide +kernel)
  exact .nil

theorem combiningClass_eq_zero {c : Char}
    (missed : ∀ row ∈ combiningClasses.table, misses c.toNat row = true) :
    combiningClass c = 0 := by
  unfold combiningClass CharClass.of
  cases found : combiningClasses.table.find? c with
  | none => rfl
  | some row =>
      obtain ⟨inside, within⟩ := Table.mem_of_find? found
      have outside := of_decide_eq_true (missed row inside)
      omega

theorem combiningClass_of_ascii {c : Char} (ascii : c.toNat < 128) : combiningClass c = 0 := by
  refine combiningClass_eq_zero ?_
  intro row inside
  have holds := combiningClasses_holds row inside
  simp only [combineTest, Bool.and_eq_true, decide_eq_true_eq] at holds
  simp only [misses, decide_eq_true_eq]
  omega

theorem combiningClass_sigma : combiningClass 'σ' = 0 := by
  refine combiningClass_eq_zero ?_
  intro row inside
  have holds := combiningClasses_holds row inside
  simp only [combineTest, Bool.and_eq_true] at holds
  exact holds.2

/-- Characters onto which nothing composes. -/
def walls : List Char := ['[', '&', ';']

/-- A pair that composes does so onto another character, by one beyond ASCII that is no small
sigma, and to one beyond ASCII. -/
def composeTest (row : Row) : Bool :=
  !(walls.map Char.toNat).contains row.first && decide (128 ≤ row.last ∧ row.last ≠ 'σ'.toNat) &&
    row.data.all fun n => decide (128 ≤ n ∧ (n < 0xD800 ∨ 0xE000 ≤ n ∧ n < 0x110000))

set_option maxRecDepth 10000 in
theorem compositions_holds :
    ∀ row ∈ Table.ofBlocks compositions.compositionRows, composeTest row = true := by
  unfold compositions.compositionRows
  refine Hold.table ?_
  repeat' (apply Hold.cons; · decide +kernel)
  exact .nil

/-- The row that says that `e` with an acute accent is one character. -/
example : composeTest ⟨0x65, 0x301, [0xE9]⟩ = true := by decide +kernel

theorem Syllable.join?_eq_some {a b joined : Char} (found : join? a b = some joined) :
    128 ≤ a.toNat ∧ 128 ≤ b.toNat ∧ 128 ≤ joined.toNat := by
  unfold join? at found
  dsimp only at found
  split at found
  · rename_i within
    simp only [leads, vowels] at within
    rw [← Option.some.inj found, toNat_ofNat (by simp only [base, leads, vowels]; omega)]
    simp only [base, leads, vowels]
    omega
  · split at found
    · rename_i within
      simp only [base, trails] at within
      rw [← Option.some.inj found, toNat_ofNat (by simp only [trails]; omega)]
      simp only [trails]
      omega
    · cases found

theorem toNat_of_wall : ∀ c ∈ walls, c.toNat < 128 := by
  decide

/-- What composes other than by arithmetic stands in a row. -/
theorem exists_composition {a b joined : Char} (bare : Syllable.join? a b = none)
    (found : compose? a b = some joined) :
    ∃ row, composeTest row = true ∧ row.first = a.toNat ∧ row.last = b.toNat ∧
      ∃ n ∈ row.data, joined = Char.ofNat n := by
  unfold compose? at found
  rw [bare] at found
  obtain ⟨pair, at_, rfl⟩ := Option.map_eq_some_iff.mp found
  have matched := Array.find?_some at_
  have inside := Array.mem_of_find?_eq_some at_
  unfold compositions at inside
  obtain ⟨row, member, made⟩ := Array.mem_filterMap.mp inside
  obtain ⟨n, head, rfl⟩ := Option.map_eq_some_iff.mp made
  simp only [Bool.and_eq_true, beq_iff_eq] at matched
  exact ⟨row, compositions_holds row member, matched.1, matched.2, n, List.mem_of_mem_head? head,
    rfl⟩

/-- Two characters compose to one beyond ASCII, the second being beyond ASCII and the first
no wall. -/
theorem compose?_eq_some {a b joined : Char} (found : compose? a b = some joined) :
    a ∉ walls ∧ 128 ≤ b.toNat ∧ 128 ≤ joined.toNat := by
  cases syllable : Syllable.join? a b with
  | some c =>
      rw [compose?, syllable] at found
      cases found
      obtain ⟨first, second, high⟩ := Syllable.join?_eq_some syllable
      refine ⟨?_, second, high⟩
      intro wall
      have ascii := toNat_of_wall a wall
      omega
  | none =>
      obtain ⟨row, holds, first, last, n, member, rfl⟩ := exists_composition syllable found
      simp only [composeTest, Bool.and_eq_true, Bool.not_eq_true', decide_eq_true_eq,
        List.all_eq_true, List.contains_eq_mem, decide_eq_false_iff_not, first, last] at holds
      obtain ⟨⟨free, second⟩, data⟩ := holds
      have valid := data n member
      refine ⟨fun wall => free (List.mem_map_of_mem wall), second.1, ?_⟩
      rw [toNat_ofNat (by omega)]
      omega

theorem compose?_sigma (a : Char) : compose? a 'σ' = none := by
  have bare : Syllable.join? a 'σ' = none := by
    unfold Syllable.join?
    dsimp only
    rw [if_neg fun within => absurd within.2.2.1 (by decide),
      if_neg fun within => absurd within.2.2.2.1 (by decide)]
  cases found : compose? a 'σ' with
  | none => rfl
  | some joined =>
      obtain ⟨row, holds, -, last, -⟩ := exists_composition bare found
      simp [composeTest, last] at holds

/-! ## The small sigma -/

set_option maxRecDepth 100000 in
theorem isAlphanumeric_sigma : isAlphanumeric 'σ' = true := by
  unfold isAlphanumeric alphanumerics CharSet.ofText
  rw [Table.ofText_ofList]
  decide +kernel

set_option maxRecDepth 100000 in
/-- It may stand in a name as it is. -/
theorem isKept_sigma (reading : Idna.Reading) :
    reading.knows 'σ' = true ∧ Idna.isKept reading 'σ' = true := by
  have early : Idna.lateCharacters.contains 'σ' = false := by
    unfold Idna.lateCharacters CharSet.ofText
    rw [Table.ofText_ofList]
    decide +kernel
  have kept : Idna.keptCharacters.contains 'σ' = true := by
    unfold Idna.keptCharacters CharSet.ofText
    rw [Table.ofText_ofList]
    decide +kernel
  have known : reading.knows 'σ' = true := by
    rw [Idna.Reading.knows, early, Bool.not_false, Bool.or_true]
  refine ⟨known, ?_⟩
  rw [Idna.isKept, if_neg (by decide), kept, known, Bool.and_self]

end Courier.Text
