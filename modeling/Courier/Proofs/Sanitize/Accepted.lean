/-
# Courier.Proofs.Sanitize.Accepted -- which recipients are taken for addresses

A recipient is escaped before it is read as an address, so it is the escaped form that has to be
an address (`email_eq_ok_iff`), and not the recipient as it is looked up.  The two differ where
the recipient has characters that are written as entities: `recipients_judged` says what becomes
of those.  In the user part none is taken, though ampersands and apostrophes may stand in an
address; in the domain they are taken behind a bracket only, and what is answered then is another
address than the one that was given (`Rewritten`).
-/
import Courier.Proofs.Sanitize.Canonical

namespace Courier.Sanitize

set_option autoImplicit false

open Mail (AddressError)
open Text.Entity (escape reserved)

variable {recipient out : String} {user domain : List Char}

/-- Whether a text reads as an address. -/
def IsAddress (text : List Char) : Prop := ∃ address, Mail.Address.read text = .ok address

instance (text : List Char) : Decidable (IsAddress text) :=
  match read : Mail.Address.read text with
  | .ok address => .isTrue ⟨address, read⟩
  | .error _ => .isFalse fun ⟨_, ok⟩ => by cases read.symm.trans ok

/-! ## What is read -/

/-- What is answered to a recipient that is no address. -/
def refusal (e : AddressError) : ServiceError :=
  .validation (.other ("Invalid email address: " ++ e.message))

theorem email_of_ok {address : Mail.Address}
    (read : Mail.Address.read (escape (canonical recipient).toList) = .ok address) :
    email recipient = .ok (String.ofList (escape (canonical recipient).toList)) := by
  rw [email, read]

theorem email_of_error {e : AddressError}
    (read : Mail.Address.read (escape (canonical recipient).toList) = .error e) :
    email recipient = .error (refusal e) := by
  rw [email, read]
  rfl

/-- A recipient is taken if its escaped form is an address, and for that form. -/
theorem email_eq_ok_iff :
    email recipient = .ok out ↔
      IsAddress (escape (canonical recipient).toList) ∧
        out.toList = escape (canonical recipient).toList := by
  constructor
  · intro taken
    cases read : Mail.Address.read (escape (canonical recipient).toList) with
    | error e =>
        rw [email_of_error read] at taken
        cases taken
    | ok address =>
        rw [email_of_ok read] at taken
        rw [← Except.ok.inj taken]
        exact ⟨⟨address, read⟩, String.toList_ofList⟩
  · rintro ⟨⟨address, read⟩, written⟩
    rw [email_of_ok read, ← written, String.ofList_toList]

/-- Otherwise the answer says why it is none. -/
theorem exists_refusal (none : ¬ IsAddress (escape (canonical recipient).toList)) :
    ∃ e, email recipient = .error (refusal e) := by
  cases read : Mail.Address.read (escape (canonical recipient).toList) with
  | error e => exact ⟨e, email_of_error read⟩
  | ok address => exact absurd ⟨address, read⟩ none

/-! ## Recipients that are what they are looked up as -/

/-- A recipient is taken just if it is an address as it is looked up, and as that. -/
structure Faithful (recipient : String) : Prop where
  taken : ∀ out, email recipient = .ok out ↔
    IsAddress (canonical recipient).toList ∧ out = canonical recipient
  refused : ¬ IsAddress (canonical recipient).toList → ∃ e, email recipient = .error (refusal e)

theorem faithful_of_free (free : ∀ c ∈ (canonical recipient).toList, c ∉ reserved) :
    Faithful recipient := by
  have same := Text.Entity.escape_eq_self free
  constructor
  case taken =>
    intro out
    rw [email_eq_ok_iff, same, String.toList_inj]
  case refused =>
    intro none
    rw [← same] at none
    exact exists_refusal none

theorem faithful_of_neither (plain : ¬ IsAddress (canonical recipient).toList)
    (escaped : ¬ IsAddress (escape (canonical recipient).toList)) : Faithful recipient where
  taken := fun out => by simp [email_eq_ok_iff, plain, escaped]
  refused := fun _ => exists_refusal escaped

/-- With anything to escape in it, a recipient that is an address in either form is not answered
as the one that it is looked up as. -/
theorem not_isAddress_of_faithful (faithful : Faithful recipient)
    (kept : escape (canonical recipient).toList ≠ (canonical recipient).toList) :
    ¬ IsAddress (canonical recipient).toList ∧ ¬ IsAddress (escape (canonical recipient).toList) := by
  have plain : ¬ IsAddress (canonical recipient).toList := by
    intro address
    have taken := (faithful.taken _).mpr ⟨address, rfl⟩
    exact kept (email_eq_ok_iff.mp taken).2.symm
  refine ⟨plain, ?_⟩
  intro escaped
  have taken := email_eq_ok_iff.mpr ⟨escaped, String.toList_ofList (l := _)⟩
  exact plain ((faithful.taken _).mp taken).1

theorem faithful_iff (recipient : String) :
    Faithful recipient ↔ (∀ c ∈ (canonical recipient).toList, c ∉ reserved) ∨
      ¬ IsAddress (canonical recipient).toList ∧
        ¬ IsAddress (escape (canonical recipient).toList) := by
  constructor
  · intro faithful
    by_cases same : escape (canonical recipient).toList = (canonical recipient).toList
    · exact .inl (Text.Entity.escape_eq_self_iff.mp same)
    · exact .inr (not_isAddress_of_faithful faithful same)
  · rintro (free | ⟨plain, escaped⟩)
    · exact faithful_of_free free
    · exact faithful_of_neither plain escaped

/-! ## Characters that are written as entities -/

/-- None is taken in a user part. -/
theorem email_of_user (parts : (canonical recipient).toList = user ++ '@' :: domain)
    (once : '@' ∉ domain) {c : Char} (member : c ∈ user) (kept : c ∈ reserved) :
    email recipient = .error (refusal .invalidUser) := by
  have alone : '@' ∉ escape domain := by
    rw [Text.Entity.mem_escape (by decide)]
    exact once
  have noUser : Mail.Address.isUser (escape user) = false := by
    refine Bool.eq_false_iff.mpr fun valid => ?_
    exact Mail.Address.semicolon_of_isUser valid (Text.Entity.quote_not_mem_escape user)
      (Text.Entity.mem_escape_of_reserved kept member).2
  refine email_of_error ?_
  rw [parts, Text.Entity.escape_mark (by decide), Mail.Address.read_append _ alone,
    Mail.Address.ofParts, noUser]
  rfl

/-- An address that is answered with another one: the same user, and the domain escaped, with all
there is to escape behind its last bracket. -/
def Rewritten (text answer : List Char) : Prop :=
  ∃ user domain, text = user ++ '@' :: domain ∧ '@' ∉ domain ∧ (∀ c ∈ user, c ∉ reserved) ∧
    answer = user ++ '@' :: escape domain ∧
    ∃ c ∈ Idna.bracketForms, c ∈ domain ∧
      ∀ d ∈ domain, d ∈ reserved → d ∈ Text.afterLast c domain

/-- In a domain they are taken behind a bracket, and escaped. -/
theorem rewritten_of_email (taken : email recipient = .ok out)
    (changed : out ≠ canonical recipient) :
    Rewritten (canonical recipient).toList out.toList := by
  obtain ⟨⟨address, read⟩, written⟩ := email_eq_ok_iff.mp taken
  obtain ⟨user, domain, parts, once, free, valid⟩ := parts_of_escaped read
  have whole : out.toList = user ++ '@' :: escape domain := by
    rw [written, parts, Text.Entity.escape_mark (by decide), Text.Entity.escape_eq_self free]
  -- As the user is free of them, it is the domain that has one.
  have kept : ¬ ∀ c ∈ domain, c ∉ reserved := by
    intro domainFree
    rw [Text.Entity.escape_eq_self domainFree, ← parts] at whole
    exact changed (String.toList_inj.mp whole)
  simp only [not_forall, not_not] at kept
  obtain ⟨c, member, inReserved⟩ := kept
  obtain ⟨first, bracket, last, cut, opens, before, others⟩ :=
    Mail.Address.bracket_of_isDomain valid (Text.Entity.mem_escape_of_reserved inReserved member).2
  have form := Idna.mem_of_opens opens
  have alone : bracket ∉ last := fun again => others bracket again opens
  obtain ⟨inside, -, behind⟩ := Text.Entity.reserved_behind
    (untouched_of_bracketForms bracket form) cut alone before
  exact ⟨user, domain, parts, once, free, whole, bracket, form, inside, behind⟩

/-- How a recipient is judged. -/
structure Judged (recipient : String) : Prop where
  faithful : Faithful recipient ↔ (∀ c ∈ (canonical recipient).toList, c ∉ reserved) ∨
    ¬ IsAddress (canonical recipient).toList ∧ ¬ IsAddress (escape (canonical recipient).toList)
  /-- No character that is written as an entity is taken in the user part. -/
  user : ∀ user domain, (canonical recipient).toList = user ++ '@' :: domain → '@' ∉ domain →
    (∃ c ∈ user, c ∈ reserved) → email recipient = .error (refusal .invalidUser)
  /-- What is answered otherwise than it is looked up has its domain escaped. -/
  domain : ∀ out, email recipient = .ok out → out ≠ canonical recipient →
    Rewritten (canonical recipient).toList out.toList

/-- **A recipient is judged by what it is looked up as just if that has nothing to escape, or is no
address in either form.**  With a character in its user part that is written as an entity it is
refused, be it an address or not; with one in its domain, what is taken is answered with another
address. -/
theorem recipients_judged (recipient : String) : Judged recipient where
  faithful := faithful_iff recipient
  user := fun _ _ parts once ⟨_, member, kept⟩ => email_of_user parts once member kept
  domain := fun _ taken changed => rewritten_of_email taken changed

/-- An address with an apostrophe in its user part is refused, and one with an ampersand between
brackets is taken for another one. -/
example :
    IsAddress (canonical "o'brien@example.com").toList ∧
      (email "o'brien@example.com").isOk = false ∧
      IsAddress (canonical "a@[x&y]").toList ∧
      (email "a@[x&y]").toOption = some "a@[x&amp;y]" := by
  decide +kernel

end Courier.Sanitize
