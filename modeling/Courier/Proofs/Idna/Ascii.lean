/-
# Courier.Proofs.Idna.Ascii -- what the ASCII form of a name leaves as it is

The ASCII form of a name has the marks of the normal form of what the name is mapped to
(`toAscii_marks`).  A character beyond ASCII there becomes part of a label in Punycode, in
which a hyphen comes after every mark (`hyphen_of_forms`).

Three characters are mapped to an opening square bracket, and both readings agree on them
(`opens_of_mapChar?`, `mapChar?_of_opens`).
-/
import Courier.Idna
import Courier.Proofs.Idna.Punycode
import Courier.Proofs.Text.Lowercase
import Courier.Proofs.Text.Normal
import Mathlib.Data.List.Forall2

namespace Courier.Idna

set_option autoImplicit false

open Text (afterLast)

variable {c d : Char} {text mapped ascii : List Char} {reading : Reading}

/-! ## Mapping -/

theorem toLower_of_isMark (mark : isMark c = true) : c.toLower = c := by
  refine Text.of_ascii (p := fun c => isMark c = true → c.toLower = c) ?_ (toNat_of_isMark mark) mark
  decide

theorem mapChar?_of_ascii (low : c.toNat < 128) : mapChar? reading c = some [c.toLower] :=
  if_pos low

theorem knows_strict (c : Char) : Reading.strict.knows c = true := by
  simp [Reading.knows]

/-- A character that both readings know is kept by both or by neither. -/
theorem isKept_strict (known : reading.knows c = true) : isKept .strict c = isKept reading c := by
  unfold isKept
  rw [known, knows_strict]

theorem mapChar?_of_kept (kept : isKept .strict c = true) (high : ¬ c.toNat < 128) :
    mapChar? .strict c = some [c] := by
  unfold mapChar?
  rw [if_neg high, knows_strict, kept, if_neg (by decide), if_pos rfl]

theorem mapChar?_of_replaced (replaced : isKept .strict c = false) (high : ¬ c.toNat < 128) :
    mapChar? .strict c = replacedCharacters.find? c := by
  unfold mapChar?
  rw [if_neg high, knows_strict, replaced, if_neg (by decide), if_neg (by decide)]
  dsimp only
  rw [if_neg (by decide)]
  exact Option.none_or

/-- The lenient reading maps a character as the strict one does, apart from its own way with one. -/
theorem mapChar?_strict (made : mapChar? reading c = some text) :
    lenientReplacement? c = some text ∨ mapChar? .strict c = some text := by
  by_cases low : c.toNat < 128
  · rw [mapChar?_of_ascii low] at made ⊢
    exact .inr made
  · unfold mapChar? at made
    rw [if_neg low] at made
    split at made
    · cases made
    · rename_i known
      have same := isKept_strict (c := c) (by simpa using known)
      split at made
      · rename_i kept
        rw [mapChar?_of_kept (same.trans kept) low]
        exact .inr made
      · rename_i replaced
        rw [mapChar?_of_replaced (same.trans (Bool.not_eq_true _ ▸ replaced)) low]
        obtain special | ⟨-, found⟩ := Option.or_eq_some_iff.mp made
        · split at special
          · exact .inl special
          · cases special
        · exact .inr found

/-- Characters that stand for an opening square bracket in names. -/
def bracketForms : List Char := ['[', Text.fullwidthBracket, Text.verticalBracket]

theorem caseless_of_bracketForms : ∀ c ∈ bracketForms, c ∈ Text.caseless := by
  decide

theorem lenientReplacement?_eq_some (made : lenientReplacement? c = some text) :
    c ∉ bracketForms ∧ text = ['s', 's'] := by
  unfold lenientReplacement? at made
  split at made
  · rename_i same
    cases made
    rw [same]
    decide
  · cases made

/-- A character that stands for an opening square bracket in names. -/
def Opens (c : Char) : Prop := mapChar? .strict c = some ['[']

theorem opens_bracket : Opens '[' := mapChar?_of_ascii (by decide)

theorem bracket_of_mapChar?_strict (made : mapChar? .strict c = some text) (member : '[' ∈ text) :
    c ∈ bracketForms ∧ text = ['['] := by
  by_cases low : c.toNat < 128
  · rw [mapChar?_of_ascii low] at made
    cases made
    have same := List.mem_singleton.mp member
    rw [← same, Text.eq_of_toLower_caseless low '[' (by decide) same.symm]
    decide
  · cases kept : isKept .strict c with
    | true =>
        rw [mapChar?_of_kept kept low] at made
        cases made
        rw [← List.mem_singleton.mp member]
        decide
    | false =>
        rw [mapChar?_of_replaced kept low] at made
        obtain ⟨rfl | rfl, alone⟩ := Text.replacedCharacters_bracket made member
        · exact ⟨by decide, alone⟩
        · exact ⟨by decide, alone⟩

/-- Only such a character is mapped to a text with a bracket in it, by either reading. -/
theorem opens_of_mapChar? (made : mapChar? reading c = some text) (member : '[' ∈ text) :
    Opens c := by
  obtain special | strict := mapChar?_strict made
  · rw [(lenientReplacement?_eq_some special).2] at member
    exact absurd member (by decide)
  · rw [(bracket_of_mapChar?_strict strict member).2] at strict
    exact strict

theorem mem_of_opens (opens : Opens c) : c ∈ bracketForms :=
  (bracket_of_mapChar?_strict opens List.mem_cons_self).1

/-- No reading maps it to anything else. -/
theorem mapChar?_of_opens (opens : Opens c) (made : mapChar? reading c = some text) :
    text = ['['] := by
  obtain special | same := mapChar?_strict made
  · exact absurd (mem_of_opens opens) (lenientReplacement?_eq_some special).1
  · rw [opens] at same
    exact (Option.some.inj same).symm

/-! ## Mapping a text -/

theorem mapText?_cons (made : mapText? reading (c :: text) = some mapped) :
    ∃ image more, mapChar? reading c = some image ∧ mapText? reading text = some more ∧
      mapped = image ++ more := by
  unfold mapText? at made ⊢
  obtain ⟨images, all, rfl⟩ := Option.map_eq_some_iff.mp made
  rw [List.mapM_cons] at all
  obtain ⟨image, here, all⟩ := Option.bind_eq_some_iff.mp all
  obtain ⟨others, later, all⟩ := Option.bind_eq_some_iff.mp all
  cases all
  exact ⟨image, others.flatten, here, by rw [later]; rfl, List.flatten_cons⟩

theorem mapText?_append {first last : List Char}
    (made : mapText? reading (first ++ last) = some mapped) :
    ∃ front back, mapText? reading first = some front ∧ mapText? reading last = some back ∧
      mapped = front ++ back := by
  induction first generalizing mapped with
  | nil => exact ⟨[], mapped, rfl, made, rfl⟩
  | cons c first ih =>
      obtain ⟨image, more, here, later, rfl⟩ := mapText?_cons made
      obtain ⟨front, back, first_eq, last_eq, rfl⟩ := ih later
      refine ⟨image ++ front, back, ?_, last_eq, (List.append_assoc ..).symm⟩
      unfold mapText? at first_eq ⊢
      obtain ⟨images, all, rfl⟩ := Option.map_eq_some_iff.mp first_eq
      rw [List.mapM_cons, here, all]
      rfl

theorem exists_mem_of_mem_mapText? (made : mapText? reading text = some mapped)
    (member : d ∈ mapped) : ∃ c ∈ text, ∃ image, mapChar? reading c = some image ∧ d ∈ image := by
  induction text generalizing mapped with
  | nil =>
      cases made
      cases member
  | cons c rest ih =>
      obtain ⟨image, more, here, later, rfl⟩ := mapText?_cons made
      obtain inside | inside := List.mem_append.mp member
      · exact ⟨c, List.mem_cons_self, image, here, inside⟩
      · obtain ⟨e, within, found⟩ := ih later inside
        exact ⟨e, List.mem_cons_of_mem c within, found⟩

/-- What a character is mapped to is part of what the text is mapped to. -/
theorem mapChar?_subset (made : mapText? reading text = some mapped) (member : c ∈ text) :
    ∃ image, mapChar? reading c = some image ∧ ∀ d ∈ image, d ∈ mapped := by
  obtain ⟨first, last, rfl⟩ := List.append_of_mem member
  obtain ⟨front, back, -, later, rfl⟩ := mapText?_append made
  obtain ⟨image, more, here, -, rfl⟩ := mapText?_cons later
  refine ⟨image, here, ?_⟩
  intro d inside
  exact List.mem_append_right _ (List.mem_append_left _ inside)

/-- A mark is mapped to itself. -/
theorem mem_of_isMark (made : mapText? reading text = some mapped) (mark : isMark c = true)
    (member : c ∈ text) : c ∈ mapped := by
  obtain ⟨image, here, subset⟩ := mapChar?_subset made member
  rw [mapChar?_of_ascii (toNat_of_isMark mark), toLower_of_isMark mark] at here
  cases here
  exact subset c List.mem_cons_self

theorem bracket_of_opens (made : mapText? reading text = some mapped) (opens : Opens c)
    (member : c ∈ text) : '[' ∈ mapped := by
  obtain ⟨image, here, subset⟩ := mapChar?_subset made member
  obtain rfl := mapChar?_of_opens opens here
  exact subset '[' List.mem_cons_self

theorem exists_opens (made : mapText? reading text = some mapped) (member : '[' ∈ mapped) :
    ∃ c ∈ text, Opens c := by
  obtain ⟨c, inside, image, here, bracket⟩ := exists_mem_of_mem_mapText? made member
  exact ⟨c, inside, opens_of_mapChar? here bracket⟩

/-- Where such a character stands, the name that is read has a bracket. -/
theorem mapText?_of_opens {first last : List Char} (opens : Opens c)
    (made : mapText? reading (first ++ c :: last) = some mapped) :
    ∃ front back, mapText? reading first = some front ∧ mapText? reading last = some back ∧
      mapped = front ++ '[' :: back := by
  obtain ⟨front, whole, firstMade, later, rfl⟩ := mapText?_append made
  obtain ⟨image, back, here, lastMade, rfl⟩ := mapText?_cons later
  obtain rfl := mapChar?_of_opens opens here
  exact ⟨front, back, firstMade, lastMade, rfl⟩

/-! ## Labels -/

theorem mem_iff_of_marks_eq {other : List Char} (same : marks text = marks other)
    (mark : isMark c = true) : c ∈ text ↔ c ∈ other := by
  have inMarks : ∀ t : List Char, c ∈ marks t ↔ c ∈ t := by
    intro t
    simp [marks, mark]
  rw [← inMarks text, same, inMarks other]

/-- Brackets and ampersands are marks. -/
theorem marks_lasting (text : List Char) :
    (marks text).filter (Text.lasting.contains ·) = text.filter (Text.lasting.contains ·) := by
  have mark : ∀ c ∈ Text.lasting, isMark c = true := by decide
  unfold marks
  rw [List.filter_filter]
  refine List.filter_congr ?_
  intro c _
  cases kept : Text.lasting.contains c with
  | true => rw [mark c (List.contains_iff_mem.mp kept), Bool.and_true]
  | false => rw [Bool.false_and]

/-- Marks after the last of one of them are what comes after it among the marks. -/
theorem marks_afterLast (mark : isMark c = true) (text : List Char) :
    marks (afterLast c text) = afterLast c (marks text) := by
  have absent : c ∉ marks (afterLast c text) := by
    intro member
    exact Text.not_mem_afterLast c text (List.mem_filter.mp member).1
  by_cases member : c ∈ text
  · obtain ⟨first, cut⟩ := Text.exists_eq_afterLast member
    have filtered : marks text = marks first ++ c :: marks (afterLast c text) := by
      conv_lhs => rw [cut]
      rw [marks_append, marks, marks, List.filter_cons_of_pos mark]
      rfl
    rw [filtered, Text.afterLast_append_mark _ absent]
  · rw [Text.afterLast_of_not_mem member] at absent ⊢
    rw [Text.afterLast_of_not_mem absent]

theorem mem_afterLast_of_marks_eq {other : List Char} (same : marks text = marks other)
    (first : isMark c = true) (last : isMark d = true) :
    d ∈ afterLast c text ↔ d ∈ afterLast c other := by
  refine mem_iff_of_marks_eq ?_ last
  rw [marks_afterLast first, marks_afterLast first, same]

/-- How the ASCII form of a label comes of it. -/
structure Form (label form : List Char) : Prop where
  /-- It has the same marks. -/
  marks_eq : marks form = marks label
  /-- After the last bracket in what is written in Punycode there is a hyphen. -/
  hyphen : (∃ d ∈ label, 128 ≤ d.toNat) → '-' ∈ afterLast '[' form

theorem hyphen_of_writes {label : List Char} (writes : Punycode.Writes text label) :
    '-' ∈ afterLast '[' (marker ++ text) := by
  obtain ⟨digits, all, rfl⟩ := writes
  have split : ∃ first, marker ++ (Punycode.front label ++ digits) = first ++ '-' :: digits := by
    unfold Punycode.front
    dsimp only
    split
    · exact ⟨['x', 'n', '-'], rfl⟩
    · exact ⟨marker ++ label.filter (·.toNat < 128), by simp⟩
  have absent : '[' ∉ '-' :: digits := by
    intro member
    obtain hyphen | member := List.mem_cons.mp member
    · exact absurd hyphen (by decide)
    · exact absurd (all '[' member) (by decide)
  obtain ⟨first, same⟩ := split
  rw [same, Text.mem_afterLast_append, Text.afterLast_of_not_mem absent]
  exact .inl List.mem_cons_self

theorem asciiLabel_form (label : List Char) : Form label (asciiLabel label) := by
  unfold asciiLabel
  split
  · rename_i ascii
    refine ⟨rfl, ?_⟩
    rintro ⟨d, member, high⟩
    have low := of_decide_eq_true (List.all_eq_true.mp ascii d member)
    omega
  · refine ⟨?_, fun _ => hyphen_of_writes (Punycode.encode_writes label)⟩
    have plain : marks marker = [] := by decide
    rw [marks_append, plain, List.nil_append, (Punycode.encode_writes label).marks_eq]

/-- A label in Punycode is ASCII, so the hyphen is needed for others only. -/
theorem form_of_unicodeLabel {label read : List Char}
    (found : unicodeLabel reading label = some read) : Form label (asciiLabel read) := by
  have form := asciiLabel_form read
  unfold unicodeLabel at found
  dsimp only at found
  obtain ⟨found, -⟩ := Option.filter_eq_some_iff.mp found
  split at found
  · rename_i marked
    obtain ⟨text, rfl⟩ := List.isPrefixOf_iff_prefix.mp marked
    obtain ⟨decoded, -⟩ := Option.filter_eq_some_iff.mp found
    have writes : Punycode.Writes text read := Punycode.writes_of_decode decoded
    have plain : marks marker = [] := by decide
    refine ⟨?_, ?_⟩
    · rw [form.marks_eq, marks_append, plain, List.nil_append, writes.marks_eq]
    · rintro ⟨d, member, high⟩
      have low : d.toNat < 128 := by
        obtain inMarker | inside := List.mem_append.mp member
        · have ascii : ∀ c ∈ marker, c.toNat < 128 := by decide
          exact ascii d inMarker
        · exact writes.ascii d inside
      omega
  · cases found
    exact form

/-! ## Names -/

variable {names forms : List (List Char)}

theorem marks_intercalate (names : List (List Char)) :
    marks (['.'].intercalate names) = (names.map marks).flatten := by
  induction names with
  | nil => rfl
  | cons label rest ih =>
      cases rest with
      | nil => simp [List.intercalate]
      | cons next more =>
          have dot : marks ('.' :: ['.'].intercalate (next :: more)) =
              marks (['.'].intercalate (next :: more)) := List.filter_cons_of_neg (by decide)
          rw [Text.intercalate_cons (List.cons_ne_nil next more), marks_append, dot, ih]
          rfl

theorem marks_of_forms (related : List.Forall₂ Form names forms) :
    marks (['.'].intercalate forms) = marks (['.'].intercalate names) := by
  rw [marks_intercalate, marks_intercalate]
  induction related with
  | nil => rfl
  | cons form _ ih => rw [List.map_cons, List.map_cons, List.flatten_cons, List.flatten_cons,
      form.marks_eq, ih]

theorem mem_afterLast_dot {tail : List Char} (other : c ≠ '.') :
    c ∈ afterLast '[' ('.' :: tail) ↔ c ∈ afterLast '[' tail := by
  rw [← List.singleton_append, Text.mem_afterLast_append,
    Text.afterLast_of_not_mem (by decide : '[' ∉ ['.'])]
  simp [other]

/-- A character beyond ASCII after the last bracket comes with a hyphen there. -/
theorem hyphen_of_forms (related : List.Forall₂ Form names forms)
    (high : 128 ≤ d.toNat) (member : d ∈ afterLast '[' (['.'].intercalate names)) :
    '-' ∈ afterLast '[' (['.'].intercalate forms) := by
  induction related with
  | nil => cases member
  | @cons label form rest others here later ih =>
      cases later with
      | nil =>
          have whole : ∀ t : List Char, ['.'].intercalate [t] = t := by simp [List.intercalate]
          rw [whole] at member ⊢
          exact here.hyphen ⟨d, Text.mem_of_mem_afterLast member, high⟩
      | @cons next nextForm more moreForms second others =>
          have other : d ≠ '.' := by
            rintro rfl
            exact absurd high (by decide)
          have brackets := mem_iff_of_marks_eq (c := '[')
            (marks_of_forms (List.Forall₂.cons second others)) (by decide)
          rw [Text.intercalate_cons (List.cons_ne_nil _ _), Text.mem_afterLast_append,
            mem_afterLast_dot other] at member
          rw [Text.intercalate_cons (List.cons_ne_nil _ _), Text.mem_afterLast_append,
            mem_afterLast_dot (by decide)]
          obtain inRest | ⟨none, inLabel⟩ := member
          · exact .inl (ih inRest)
          · refine .inr ⟨?_, here.hyphen ⟨d, Text.mem_of_mem_afterLast inLabel, high⟩⟩
            simpa [brackets] using none

theorem forms_of_mapM {read : List (List Char)}
    (found : names.mapM (unicodeLabel reading) = some read) :
    List.Forall₂ Form names (read.map asciiLabel) := by
  induction names generalizing read with
  | nil =>
      cases found
      exact .nil
  | cons label rest ih =>
      rw [List.mapM_cons] at found
      obtain ⟨first, here, found⟩ := Option.bind_eq_some_iff.mp found
      obtain ⟨others, later, found⟩ := Option.bind_eq_some_iff.mp found
      cases found
      exact .cons (form_of_unicodeLabel here) (ih later)

/-- What there is to know of a name that has an ASCII form. -/
theorem toAscii_eq_some (found : toAscii reading text = some ascii) :
    ∃ mapped, mapText? reading text = some mapped ∧
      ∃ forms, List.Forall₂ Form (labels (Text.normalized mapped)) forms ∧
        ascii = ['.'].intercalate forms := by
  unfold toAscii at found
  obtain ⟨mapped, made, found⟩ := Option.bind_eq_some_iff.mp found
  obtain ⟨read, all, found⟩ := Option.bind_eq_some_iff.mp found
  refine ⟨mapped, made, read.map asciiLabel, forms_of_mapM all, ?_⟩
  split at found
  · cases found
  · exact (Option.some.inj found).symm

theorem toAscii_marks (found : toAscii reading text = some ascii) :
    ∃ mapped, mapText? reading text = some mapped ∧
      marks ascii = marks (Text.normalized mapped) ∧
      ((∃ d ∈ afterLast '[' (Text.normalized mapped), 128 ≤ d.toNat) →
        '-' ∈ afterLast '[' ascii) := by
  obtain ⟨mapped, made, forms, related, rfl⟩ := toAscii_eq_some found
  have whole : ['.'].intercalate (labels (Text.normalized mapped)) = Text.normalized mapped :=
    Text.intercalate_pieces '.' _
  refine ⟨mapped, made, ?_, ?_⟩
  · rw [marks_of_forms related, whole]
  · rintro ⟨d, member, high⟩
    exact hyphen_of_forms related high (whole.symm ▸ member)

/-! ## A name that is not in ASCII -/

theorem mapText?_sigma : mapText? .lenient ['a', 'σ'] = some ['a', 'σ'] := by
  have first : mapChar? .lenient 'a' = some ['a'] := rfl
  have second : mapChar? .lenient 'σ' = some ['σ'] := by
    rw [mapChar?, if_neg (by decide), (Text.isKept_sigma .lenient).1,
      (Text.isKept_sigma .lenient).2]
    rfl
  rw [mapText?, List.mapM_cons, List.mapM_cons, List.mapM_nil, first, second]
  rfl

set_option maxRecDepth 100000 in
theorem unicodeLabel_sigma : unicodeLabel .lenient ['a', 'σ'] = some ['a', 'σ'] := by
  have bare : marker.isPrefixOf ['a', 'σ'] = false := by decide
  have start : (['a', 'σ'].head?).any isCombiningMark = false := by
    unfold isCombiningMark combiningMarks Text.CharSet.ofText
    rw [List.head?_cons, Option.any_some, Text.Table.ofText_ofList]
    decide +kernel
  have kept : ['a', 'σ'].all (isKept .lenient) = true := by
    have first : isKept .lenient 'a' = true := by
      rw [isKept, if_pos (by decide)]
      decide
    rw [List.all_cons, first, List.all_cons, (Text.isKept_sigma .lenient).2]
    rfl
  have valid : isValidLabel .lenient ['a', 'σ'] = true := by
    rw [isValidLabel, start, kept]
    simp
  rw [unicodeLabel, bare, if_neg (by decide), Option.filter_some, valid, if_pos rfl]

set_option maxRecDepth 100000 in
theorem toAscii_sigma : toAscii .lenient ['a', 'σ'] = some "xn--a-0mb".toList := by
  have normal : Text.normalized ['a', 'σ'] = ['a', 'σ'] := by
    refine Text.normalized_of_stable ?_
    simp only [List.forall_mem_cons, List.not_mem_nil, false_imp_iff, implies_true, and_true]
    exact ⟨Text.stable_of_ascii (by decide), Text.stable_sigma⟩
  have one : labels ['a', 'σ'] = [['a', 'σ']] := by decide
  have read : (labels (Text.normalized ['a', 'σ'])).mapM (unicodeLabel .lenient) =
      some [['a', 'σ']] := by
    rw [normal, one, List.mapM_cons, List.mapM_nil, unicodeLabel_sigma]
    rfl
  have straight : [['a', 'σ']].any Direction.turns = false := by
    unfold Direction.turns Direction.of Direction.numbers Text.CharClass.ofText
    rw [Text.Table.ofText_ofList]
    decide +kernel
  have form : asciiLabel ['a', 'σ'] = "xn--a-0mb".toList := by decide +kernel
  rw [toAscii, mapText?_sigma, Option.bind_eq_bind, Option.bind_some, read, Option.bind_eq_bind,
    Option.bind_some, straight, Bool.false_and, if_neg (by decide), List.map_cons, List.map_nil,
    form]
  rfl

end Courier.Idna
