/-
# Courier.Proofs.Text.Entity -- an escaped text reads back

Escaping leaves no `<`, no `>` and no quote in a text (`not_mem_escape`), and an ampersand only
where one of the five entities begins (`existsUnique_entity`).  `unescape` is the reader that
belongs to it: it replaces entities from left to right, and what it makes of an escaped text is
the text (`unescape_escape`), also of one that had entities in it before.  So no two texts are
escaped alike (`escape_injective`).

A text without reserved characters stays as it is (`escape_eq_self`), and at a character that is
in no entity it is escaped on either side for itself (`escape_cut`).
-/
import Courier.Proofs.Text.Scan
import Courier.Text.Escape
import Mathlib.Tactic.Conv

namespace Courier.Text.Entity

set_option autoImplicit false

variable {c d : Char} {text : List Char}

/-! ## Characters that are written as entities -/

/-- Characters that are written as entities. -/
def reserved : List Char := ['&', '<', '>', '"', '\'']

theorem encodeChar_of_not_mem (free : c ∉ reserved) : encodeChar c = [c] := by
  simp only [reserved, List.mem_cons, List.not_mem_nil, or_false, not_or] at free
  unfold encodeChar
  have none : ofChar? c = none := by
    unfold ofChar?
    split <;> simp_all
  rw [none]
  rfl

theorem escape_append (first last : List Char) :
    escape (first ++ last) = escape first ++ escape last :=
  List.flatMap_append

theorem escape_cons (c : Char) (rest : List Char) :
    escape (c :: rest) = encodeChar c ++ escape rest :=
  List.flatMap_cons

theorem escape_cons_of_not_mem (free : c ∉ reserved) (rest : List Char) :
    escape (c :: rest) = c :: escape rest := by
  rw [escape_cons, encodeChar_of_not_mem free, List.singleton_append]

theorem escape_mark (free : c ∉ reserved) (first last : List Char) :
    escape (first ++ c :: last) = escape first ++ c :: escape last := by
  rw [escape_append, escape_cons_of_not_mem free]

/-- Without such characters there is nothing to escape. -/
theorem escape_eq_self (free : ∀ c ∈ text, c ∉ reserved) : escape text = text := by
  induction text with
  | nil => rfl
  | cons c rest ih =>
      rw [escape_cons_of_not_mem (free c List.mem_cons_self),
        ih fun d member => free d (List.mem_cons_of_mem c member)]

theorem length_le_escape (text : List Char) : text.length ≤ (escape text).length := by
  induction text with
  | nil => exact Nat.le_refl 0
  | cons c rest ih =>
      have written : 1 ≤ (encodeChar c).length := by
        by_cases kept : c ∈ reserved
        · revert c
          decide
        · rw [encodeChar_of_not_mem kept, List.length_singleton]
      rw [escape_cons, List.length_append, List.length_cons]
      omega

theorem escape_eq_self_iff : escape text = text ↔ ∀ c ∈ text, c ∉ reserved := by
  refine ⟨?_, escape_eq_self⟩
  intro same c member kept
  -- An entity makes the text longer, and nothing makes up for it.
  have longer : ∀ c ∈ reserved, 1 < (encodeChar c).length := by decide
  obtain ⟨first, last, rfl⟩ := List.append_of_mem member
  have lengths := congrArg List.length same
  rw [escape_append, escape_cons] at lengths
  simp only [List.length_append, List.length_cons] at lengths
  have start := length_le_escape first
  have rest := length_le_escape last
  have here := longer c kept
  omega

/-- Every entity has an ampersand and a semicolon. -/
theorem mem_escape_of_reserved (kept : c ∈ reserved) (member : c ∈ text) :
    '&' ∈ escape text ∧ ';' ∈ escape text := by
  have both : ∀ c ∈ reserved, '&' ∈ encodeChar c ∧ ';' ∈ encodeChar c := by decide
  exact ⟨List.mem_flatMap.mpr ⟨c, member, (both c kept).1⟩,
    List.mem_flatMap.mpr ⟨c, member, (both c kept).2⟩⟩

/-! ## Reading entities -/

/-- The entities, each with the character that it stands for. -/
def entities : List (List Char × Char) :=
  [("&amp;".toList, '&'), ("&lt;".toList, '<'), ("&gt;".toList, '>'), ("&#34;".toList, '"'),
    ("&#39;".toList, '\'')]

/-- The entity that a text begins with. -/
def entity? (text : List Char) : Option (List Char × Char) :=
  entities.find? fun entity => entity.1.isPrefixOf text

/-- The text with its entities, from left to right, replaced by what they stand for. -/
def unescape : List Char → List Char
  | [] => []
  | c :: rest =>
      match entity? (c :: rest) with
      | some (name, stands) => stands :: unescape (rest.drop (name.length - 1))
      | none => c :: unescape rest
termination_by text => text.length

/-- No entity begins like another one. -/
theorem entity_eq_of_begins : ∀ e ∈ entities, ∀ f ∈ entities, e.1 <+: f.1 → e = f := by
  decide

/-- What a reserved character is written as is its entity. -/
theorem mem_entities : ∀ c ∈ reserved, (encodeChar c, c) ∈ entities := by
  decide

theorem entity?_eq_none (other : c ≠ '&') (rest : List Char) : entity? (c :: rest) = none := by
  have ampersand : ∀ e ∈ entities, e.1.head? = some '&' := by decide
  refine List.find?_eq_none.mpr fun e member begins => ?_
  obtain ⟨more, name⟩ := List.head?_eq_some_iff.mp (ampersand e member)
  rw [name] at begins
  obtain ⟨tail, same⟩ := List.isPrefixOf_iff_prefix.mp begins
  exact other (List.cons.inj same).1.symm

theorem entity?_encodeChar (kept : c ∈ reserved) (rest : List Char) :
    entity? (encodeChar c ++ rest) = some (encodeChar c, c) := by
  have begins : encodeChar c <+: encodeChar c ++ rest := List.prefix_append _ _
  cases found : entity? (encodeChar c ++ rest) with
  | none =>
      have passed := List.find?_eq_none.mp found _ (mem_entities c kept)
      exact absurd begins (mt List.isPrefixOf_iff_prefix.mpr passed)
  | some e =>
      -- both begin the text, so one of the two begins the other
      have inside : e ∈ entities := List.mem_of_find?_eq_some found
      have alsoBegins : e.1 <+: encodeChar c ++ rest := by
        have taken := List.find?_some found
        exact List.isPrefixOf_iff_prefix.mp taken
      rcases List.prefix_or_prefix_of_prefix begins alsoBegins with before | after
      · rw [entity_eq_of_begins _ (mem_entities c kept) e inside before]
      · rw [entity_eq_of_begins e inside _ (mem_entities c kept) after]

/-- What a character is written as reads as the character, whatever comes after it. -/
theorem unescape_encodeChar_append (c : Char) (rest : List Char) :
    unescape (encodeChar c ++ rest) = c :: unescape rest := by
  by_cases kept : c ∈ reserved
  · have ampersand : ∀ c ∈ reserved, (encodeChar c).head? = some '&' := by decide
    obtain ⟨more, name⟩ := List.head?_eq_some_iff.mp (ampersand c kept)
    have found := entity?_encodeChar kept rest
    rw [name, List.cons_append] at found ⊢
    rw [unescape, found]
    simp
  · have other : c ≠ '&' := by
      rintro rfl
      exact kept (by decide)
    rw [encodeChar_of_not_mem kept, List.singleton_append, unescape, entity?_eq_none other]

/-- An escaped text reads as the text, whatever comes after it. -/
theorem unescape_escape_append (text rest : List Char) :
    unescape (escape text ++ rest) = text ++ unescape rest := by
  induction text with
  | nil => rfl
  | cons c more ih =>
      rw [escape_cons, List.append_assoc, unescape_encodeChar_append, ih, List.cons_append]

theorem unescape_escape (text : List Char) : unescape (escape text) = text := by
  have whole := unescape_escape_append text []
  rwa [List.append_nil, unescape, List.append_nil] at whole

theorem escape_injective : Function.Injective escape :=
  Function.LeftInverse.injective unescape_escape

theorem escape_eq_nil_iff : escape text = [] ↔ text = [] :=
  escape_injective.eq_iff' rfl

/-! ## What an escaped text holds -/

/-- Of the reserved characters only the ampersand is left. -/
theorem not_mem_escape (kept : c ∈ reserved) (other : c ≠ '&') : c ∉ escape text := by
  intro member
  obtain ⟨d, -, within⟩ := List.mem_flatMap.mp member
  by_cases written : d ∈ reserved
  · have none : ∀ d ∈ reserved, ∀ c ∈ reserved, c ≠ '&' → c ∉ encodeChar d := by decide
    exact none d written c kept other within
  · rw [encodeChar_of_not_mem written, List.mem_singleton] at within
    exact written (within ▸ kept)

/-- Quotes are gone once a text is escaped. -/
theorem quote_not_mem_escape (text : List Char) : '"' ∉ escape text :=
  not_mem_escape (by decide) (by decide)

/-- An ampersand in what a character is written as begins its entity. -/
theorem eq_nil_of_encodeChar {before after : List Char}
    (cut : encodeChar c = before ++ '&' :: after) : c ∈ reserved ∧ before = [] := by
  by_cases kept : c ∈ reserved
  · refine ⟨kept, ?_⟩
    have once : ∀ c ∈ reserved, '&' ∉ (encodeChar c).tail := by decide
    cases before with
    | nil => rfl
    | cons first more =>
        refine absurd ?_ (once c kept)
        rw [cut]
        exact List.mem_append_right more List.mem_cons_self
  · rw [encodeChar_of_not_mem kept] at cut
    have member : '&' ∈ [c] := cut ▸ List.mem_append_right before List.mem_cons_self
    exact absurd (List.mem_singleton.mp member ▸ by decide) kept

theorem exists_entity {before after : List Char} (cut : escape text = before ++ '&' :: after) :
    ∃ entity ∈ entities, entity.1 <+: '&' :: after := by
  induction text generalizing before with
  | nil => simp [escape] at cut
  | cons c rest ih =>
      rw [escape_cons, List.append_eq_append_iff] at cut
      obtain ⟨more, -, later⟩ | ⟨more, here, behind⟩ := cut
      · exact ih later
      · cases more with
        | nil =>
            have start : escape rest = [] ++ '&' :: after := behind.symm
            exact ih start
        | cons first name =>
            -- the ampersand is in what the first character is written as
            obtain ⟨rfl, last⟩ := List.cons.inj behind
            obtain ⟨kept, rfl⟩ := eq_nil_of_encodeChar here
            refine ⟨_, mem_entities c kept, ?_⟩
            rw [here, last]
            exact List.prefix_append ('&' :: name) (escape rest)

/-- Every ampersand of an escaped text begins an entity, and no second one. -/
theorem existsUnique_entity {before after : List Char}
    (cut : escape text = before ++ '&' :: after) :
    ∃! entity, entity ∈ entities ∧ entity.1 <+: '&' :: after := by
  obtain ⟨entity, member, begins⟩ := exists_entity cut
  refine ⟨entity, ⟨member, begins⟩, ?_⟩
  rintro other ⟨inside, alsoBegins⟩
  rcases List.prefix_or_prefix_of_prefix alsoBegins begins with before | after
  · exact entity_eq_of_begins other inside entity member before
  · exact (entity_eq_of_begins entity member other inside after).symm

/-! ## Characters that escaping leaves alone -/

/-- A character that is in no entity and is not written as one. -/
def Untouched (c : Char) : Prop := c ∉ reserved ∧ ∀ d ∈ reserved, c ∉ encodeChar d

instance (c : Char) : Decidable (Untouched c) := inferInstanceAs (Decidable (_ ∧ _))

theorem mem_escape (untouched : Untouched c) : c ∈ escape text ↔ c ∈ text := by
  constructor
  · intro member
    obtain ⟨d, inside, within⟩ := List.mem_flatMap.mp member
    by_cases kept : d ∈ reserved
    · exact absurd within (untouched.2 d kept)
    · rw [encodeChar_of_not_mem kept] at within
      exact List.mem_singleton.mp within ▸ inside
  · intro member
    refine List.mem_flatMap.mpr ⟨c, member, ?_⟩
    rw [encodeChar_of_not_mem untouched.1]
    exact List.mem_singleton_self c

/-- A text is escaped on either side of such a character for itself. -/
theorem escape_cut (untouched : Untouched c) (member : c ∈ text) :
    ∃ first, text = first ++ c :: afterLast c text ∧
      escape text = escape first ++ c :: escape (afterLast c text) ∧
      c ∉ escape (afterLast c text) := by
  obtain ⟨first, cut⟩ := exists_eq_afterLast member
  refine ⟨first, cut, ?_, ?_⟩
  · conv_lhs => rw [cut]
    exact escape_mark untouched.1 first _
  · rw [mem_escape untouched]
    exact not_mem_afterLast c text

/-- Where an escaped text is cut at such a character and no entity comes before it, the text has
what is written as an entity behind it. -/
theorem reserved_behind {first last : List Char} (untouched : Untouched c)
    (cut : escape text = first ++ c :: last) (alone : c ∉ last) (before : '&' ∉ first) :
    c ∈ text ∧ last = escape (afterLast c text) ∧
      ∀ d ∈ text, d ∈ reserved → d ∈ afterLast c text := by
  have inside : c ∈ text := by
    refine (mem_escape untouched).mp ?_
    rw [cut]
    exact List.mem_append_right first List.mem_cons_self
  obtain ⟨front, whole, escaped, absent⟩ := escape_cut untouched inside
  have sameLast : last = escape (afterLast c text) := by
    rw [← afterLast_append_mark first alone, ← cut, escaped, afterLast_append_mark _ absent]
  have sameFirst : first = escape front := by
    rw [cut, ← sameLast] at escaped
    exact List.append_cancel_right escaped
  refine ⟨inside, sameLast, ?_⟩
  intro d member kept
  rw [whole] at member
  obtain inFront | rest := List.mem_append.mp member
  · rw [sameFirst] at before
    exact absurd (mem_escape_of_reserved kept inFront).1 before
  · obtain rfl | behind := List.mem_cons.mp rest
    · exact absurd kept untouched.1
    · exact behind

end Courier.Text.Entity
