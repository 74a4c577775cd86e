/-
# Courier.Proofs.Sanitize.Canonical -- the recipient that is charged and the one that is looked up

Sending escapes the recipient after it is trimmed and put in lower case; looking up its quota
does not.  They come to the same because no recipient that escaping would change is taken
(`escape_lowercase`): an entity has a semicolon, which no user part may have and no domain but
one in brackets, and what such a domain has behind its bracket the check of requests does not
take (`Validation.not_isDomain`).
-/
import Courier.Proofs.Mail.Domain
import Courier.Proofs.Text.Entity
import Courier.Proofs.Text.Scan
import Courier.Sanitize

namespace Courier

set_option autoImplicit false

open Text (afterLast lowercase lowerFrom)

variable {c d : Char} {text : List Char}

/-! ## Marks of a trimmed text -/

namespace Text

theorem mem_afterLast_trimEnd (mark : isBlank c = false) (solid : isBlank d = false) :
    d ∈ afterLast c (trimEnd text) ↔ d ∈ afterLast c text := by
  obtain ⟨blanks, trimmed, free⟩ := exists_trimEnd text
  conv_rhs => rw [trimmed, afterLast_append, if_neg (free c mark)]
  simp [free d solid]

theorem solid_of_caseless : ∀ c ∈ caseless, isBlank c = false := by
  decide

/-- A trimmed text in lower case has the marks of the text. -/
theorem mem_lowered {past : List Char} (mark : c ∈ caseless) :
    c ∈ lowerFrom past (trimEnd text) ↔ c ∈ text :=
  (mem_lowerFrom mark).trans (mem_trimEnd (solid_of_caseless c mark))

theorem mem_afterLast_lowered {past : List Char} (mark : c ∈ caseless) (kept : d ∈ caseless) :
    d ∈ afterLast c (lowerFrom past (trimEnd text)) ↔ d ∈ afterLast c text :=
  (mem_afterLast_lowerFrom mark kept).trans
    (mem_afterLast_trimEnd (solid_of_caseless c mark) (solid_of_caseless d kept))

end Text

/-! ## Users -/

namespace Mail.Address

theorem split?_eq (text : List Char) :
    split? text = if (afterLast '@' text).length < text.length then
      some (text.take (text.length - (afterLast '@' text).length - 1), afterLast '@' text)
    else none :=
  rfl

/-- A text that reads as an address is its two parts. -/
theorem read_eq_ok {address : Address} (found : read text = .ok address) :
    text = address.user ++ '@' :: address.domain ∧ '@' ∉ address.domain ∧
      isUser address.user = true ∧ isDomain address.domain = true := by
  unfold read at found
  split at found
  · cases found
  · rename_i user domain parts
    rw [split?_eq] at parts
    split at parts
    · rename_i shorter
      cases parts
      have at_ : '@' ∈ text := Text.mem_of_afterLast_length shorter
      unfold ofParts at found
      split at found
      · cases found
      · rename_i validUser
        split at found
        · cases found
        · rename_i validDomain
          cases found
          exact ⟨(Text.take_append_afterLast at_).symm, Text.not_mem_afterLast '@' text,
            by simpa using validUser, by simpa using validDomain⟩
    · cases parts

/-- Two parts read as an address if they are one. -/
theorem read_append (user : List Char) {domain : List Char} (once : '@' ∉ domain) :
    read (user ++ '@' :: domain) = ofParts user domain := by
  have parts : split? (user ++ '@' :: domain) = some (user, domain) := by
    rw [split?_eq, Text.afterLast_append_mark user once, Text.take_append_mark user once,
      if_pos (by simp; omega)]
  rw [read, parts]

/-- A user part with a semicolon in it is in quotes. -/
theorem semicolon_of_isUser {user : List Char} (valid : isUser user = true) (bare : '"' ∉ user) :
    ';' ∉ user := by
  unfold isUser at valid
  have form := (Bool.and_eq_true_iff.mp valid).2
  split at form
  · rename_i quoted
    have head := (Bool.and_eq_true_iff.mp quoted).1
    obtain ⟨rest, rfl⟩ := List.head?_eq_some_iff.mp (beq_iff_eq.mp head)
    exact absurd List.mem_cons_self bare
  · refine semicolon_of_atoms ?_
    intro atom inside
    exact (Bool.and_eq_true_iff.mp (List.all_eq_true.mp form atom inside)).2

end Mail.Address

namespace Validation

theorem solid_of_isUserChar (valid : isUserChar c = true) :
    c.toNat < 128 ∧ Text.isBlank c = false := by
  have marks : ∀ c ∈ userMarks, c.toNat < 128 := by decide
  have ascii : c.toNat < 128 := by
    obtain alphanum | mark := Bool.or_eq_true_iff.mp valid
    · exact Idna.toNat_of_alphanum alphanum
    · exact marks c (List.contains_iff_mem.mp mark)
  refine ⟨ascii, ?_⟩
  refine Text.of_ascii (p := fun c => isUserChar c = true → Text.isBlank c = false) ?_ ascii valid
  decide

theorem isEmail_eq (text : List Char) :
    isEmail text = if (afterLast '@' text).length < text.length then
      let user := text.take (text.length - (afterLast '@' text).length - 1)
      decide (user.length ≤ 64 ∧ (afterLast '@' text).length ≤ 255) && !user.isEmpty &&
        user.all isUserChar && isDomain (afterLast '@' text)
    else false :=
  rfl

/-- A text that looks like an email address is a user and a domain. -/
theorem isEmail_eq_true (valid : isEmail text = true) :
    ∃ user domain, text = user ++ '@' :: domain ∧ user ≠ [] ∧
      (∀ c ∈ user, isUserChar c = true) ∧ '@' ∉ domain ∧ isDomain domain = true := by
  rw [isEmail_eq] at valid
  dsimp only at valid
  split at valid
  · rename_i shorter
    have at_ : '@' ∈ text := Text.mem_of_afterLast_length shorter
    simp only [Bool.and_eq_true, Bool.not_eq_true', List.all_eq_true] at valid
    obtain ⟨⟨⟨-, start⟩, chars⟩, validDomain⟩ := valid
    refine ⟨_, afterLast '@' text, (Text.take_append_afterLast at_).symm, ?_, chars,
      Text.not_mem_afterLast '@' text, validDomain⟩
    intro none
    rw [List.isEmpty_eq_false_iff] at start
    exact start none
  · cases valid

/-- And a user and a domain look like an email address if each is what it should be. -/
theorem isEmail_append {user domain : List Char} (once : '@' ∉ domain)
    (short : user.length ≤ 64 ∧ domain.length ≤ 255) (start : user ≠ [])
    (chars : user.all isUserChar = true) (valid : isDomain domain = true) :
    isEmail (user ++ '@' :: domain) = true := by
  rw [isEmail_eq, Text.afterLast_append_mark user once, Text.take_append_mark user once,
    if_pos (by simp; omega)]
  simp [short, start, chars, valid]

end Validation

/-! ## Recipients -/

namespace Sanitize

open Idna (Opens bracketForms)
open Text.Entity (escape reserved Untouched)

theorem untouched_of_bracketForms : ∀ c ∈ bracketForms, Untouched c := by
  decide

/-- A domain that is taken as it comes, and as it is once it is escaped, has nothing to escape. -/
theorem not_reserved_of_isDomain {past domain : List Char}
    (asked : Validation.isDomain domain = true)
    (read : Mail.Address.isDomain (escape (lowerFrom past (Text.trimEnd domain))) = true) :
    ∀ d ∈ lowerFrom past (Text.trimEnd domain), d ∉ reserved := by
  have reservedMark : ∀ d ∈ reserved, Idna.isMark d = true ∧ Validation.isIpChar d = false ∧
      d ≠ ']' ∧ d ∈ Text.caseless := by decide
  have bracketCaseless := Idna.caseless_of_bracketForms
  intro d member kept
  obtain ⟨mark, foreign, other, caseless⟩ := reservedMark d kept
  -- The escaped domain is in brackets, and its entities stand behind the one that opens.
  obtain ⟨first, c, last, cut, opens, before, others⟩ := Mail.Address.bracket_of_isDomain read
    (Text.Entity.mem_escape_of_reserved kept member).2
  have form := Idna.mem_of_opens opens
  have alone : c ∉ last := fun again => others c again opens
  obtain ⟨inside, same, behind⟩ :=
    Text.Entity.reserved_behind (untouched_of_bracketForms c form) cut alone before
  -- So it is with what is escaped, in the domain as it comes.
  have inDomain : c ∈ domain := (Text.mem_lowered (bracketCaseless c form)).mp inside
  have rawBehind : d ∈ afterLast c domain :=
    (Text.mem_afterLast_lowered (bracketCaseless c form) caseless).mp (behind d member kept)
  have rawOthers : ∀ e ∈ afterLast c domain, ¬ Opens e := by
    intro e inAfter opensToo
    have bracket := Idna.mem_of_opens opensToo
    refine others e ?_ opensToo
    rw [same, Text.Entity.mem_escape (untouched_of_bracketForms e bracket)]
    exact (Text.mem_afterLast_lowered (bracketCaseless c form) (bracketCaseless e bracket)).mpr
      inAfter
  obtain ⟨start, split⟩ := Text.exists_eq_afterLast inDomain
  rw [split, Validation.not_isDomain opens rawOthers rawBehind mark foreign other] at asked
  cases asked

/-- An escaped text that reads as an address is a user with nothing to escape and a domain that is
taken once it is escaped. -/
theorem parts_of_escaped {address : Mail.Address}
    (read : Mail.Address.read (escape text) = .ok address) :
    ∃ user domain, text = user ++ '@' :: domain ∧ '@' ∉ domain ∧ (∀ c ∈ user, c ∉ reserved) ∧
      Mail.Address.isDomain (escape domain) = true := by
  obtain ⟨whole, once, validUser, validDomain⟩ := Mail.Address.read_eq_ok read
  have inside : '@' ∈ text := by
    rw [← Text.Entity.mem_escape (by decide), whole]
    exact List.mem_append_right _ List.mem_cons_self
  obtain ⟨first, cut, escaped, absent⟩ := Text.Entity.escape_cut (by decide) inside
  obtain ⟨user_eq, domain_eq⟩ := Text.append_mark_inj once absent (whole.symm.trans escaped)
  rw [user_eq] at validUser
  rw [domain_eq] at validDomain
  refine ⟨first, afterLast '@' text, cut, Text.not_mem_afterLast '@' text, ?_, validDomain⟩
  intro c member kept
  exact Mail.Address.semicolon_of_isUser validUser (Text.Entity.quote_not_mem_escape _)
    (Text.Entity.mem_escape_of_reserved kept member).2

theorem trim_eq {user domain : List Char} (start : user ≠ [])
    (chars : ∀ c ∈ user, Validation.isUserChar c = true) :
    Text.trim (user ++ '@' :: domain) = user ++ '@' :: Text.trimEnd domain := by
  obtain ⟨c, rest, rfl⟩ := List.exists_cons_of_ne_nil start
  have solid := (Validation.solid_of_isUserChar (chars c List.mem_cons_self)).2
  have untouched : Text.trimStart (c :: rest ++ '@' :: domain) = c :: rest ++ '@' :: domain :=
    List.dropWhile_cons_of_neg (by simp [solid])
  rw [Text.trim, untouched, Text.trimEnd_append (by decide)]

theorem lowercase_eq {user domain : List Char}
    (chars : ∀ c ∈ user, Validation.isUserChar c = true) :
    lowercase (user ++ '@' :: domain) =
      user.map Char.toLower ++ '@' :: lowerFrom ('@' :: user.reverse) domain := by
  rw [lowercase, Text.lowerFrom_append fun c member =>
    (Validation.solid_of_isUserChar (chars c member)).1, lowerFrom,
    Text.lowerChar_of_caseless (by decide), List.append_nil, List.singleton_append]

/-- A recipient that is taken has nothing to escape. -/
theorem escape_lowercase {address : Mail.Address} (valid : Validation.isEmail text = true)
    (read : Mail.Address.read (escape (lowercase (Text.trim text))) = .ok address) :
    escape (lowercase (Text.trim text)) = lowercase (Text.trim text) := by
  obtain ⟨user, domain, rfl, start, chars, alone, validDomain⟩ := Validation.isEmail_eq_true valid
  rw [trim_eq start chars, lowercase_eq chars] at read ⊢
  -- The last `@` is the one between user and domain as they come.
  have noAt : '@' ∉ lowerFrom ('@' :: user.reverse) (Text.trimEnd domain) := by
    rw [Text.mem_lowered (by decide)]
    exact alone
  obtain ⟨front, back, whole, once, userFree, readDomain⟩ := parts_of_escaped read
  obtain ⟨rfl, rfl⟩ := Text.append_mark_inj noAt once whole
  rw [Text.Entity.escape_mark (by decide), Text.Entity.escape_eq_self userFree,
    Text.Entity.escape_eq_self (not_reserved_of_isDomain validDomain readDomain)]

/-- Sending takes a recipient for what looking up its quota takes it for. -/
theorem email_eq_canonical {recipient address : String}
    (valid : Validation.isEmail recipient.toList = true) (taken : email recipient = .ok address) :
    address = canonical recipient := by
  have listed : (canonical recipient).toList = lowercase (Text.trim recipient.toList) :=
    String.toList_ofList
  unfold email at taken
  rw [listed] at taken
  cases read : Mail.Address.read (escape (lowercase (Text.trim recipient.toList))) with
  | error e =>
      simp only [read] at taken
      cases taken
  | ok parsed =>
      simp only [read] at taken
      rw [← Except.ok.inj taken, escape_lowercase valid read]
      rfl

end Sanitize

end Courier
