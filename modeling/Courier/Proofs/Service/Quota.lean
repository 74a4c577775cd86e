/-
# Courier.Proofs.Service.Quota -- the quota that is reported is the one that is charged

A request that passes its checks goes by one form of its recipient throughout: it is charged to
the quota, stands in the record and on the emails, and is what the quota is looked up by
(`OneRecipient`).  Only looking up does without the escaping, and
`Sanitize.email_eq_canonical` says why that makes no difference.

The form is the same for all spellings that have letter by letter the same lower-case form, as
long as none has a capital sigma: that goes to one letter at the end of a word and to another
elsewhere.
-/
import Courier.Proofs.Limiter.Disorder
import Courier.Proofs.Pipeline.Separation
import Courier.Proofs.Sanitize.Canonical
import Courier.Proofs.Service.Contents
import Courier.Proofs.Service.Counted

namespace Courier

set_option autoImplicit false

/-! ## One admission -/

namespace Limiter

variable {c : Config} {l : Limiter} {now : Instant} {id : String}

/-- What is recorded of an identifier is what is held of it, even where an identifier had more
than one entry. -/
theorem admitted_record (l : Limiter) (id : String) (instants : List Instant) :
    (l.record id instants).admitted id = instants := by
  have replaced : ∀ entries : List (String × List Instant), entries.any (·.1 == id) = true →
      (entries.map fun entry => if entry.1 == id then (id, instants) else entry).find?
        (·.1 == id) = some (id, instants) := by
    intro entries tracked
    induction entries with
    | nil => cases tracked
    | cons entry rest ih =>
        cases same : entry.1 == id with
        | true => rw [List.map_cons, if_pos same, List.find?_cons_of_pos (by simp)]
        | false =>
            rw [List.any_cons, same, Bool.false_or] at tracked
            rw [List.map_cons, if_neg (by simp [same]), List.find?_cons_of_neg (by simp [same])]
            exact ih tracked
  unfold record
  split
  · rename_i tracked
    simp only [admitted, replaced l.entries tracked]
    rfl
  · rename_i untracked
    have none : l.entries.find? (·.1 == id) = none :=
      List.find?_eq_none.mpr fun entry member same =>
        untracked (List.any_eq_true.mpr ⟨entry, member, same⟩)
    simp [admitted, List.find?_append, none]

/-- With a window that counts anything, an admission takes one of what remains. -/
theorem remaining_allow_self (positive : 0 < c.window.nanos)
    (granted : (l.allow c now id).1 = true) :
    (l.allow c now id).2.1.remaining c now id + 1 = l.remaining c now id := by
  have held : (l.allow c now id).2.1.admitted id =
      ((l.admitted id).dropWhile fun instant => !c.inWindow now instant) ++ [now] := by
    refine (admitted_record l id _).trans ?_
    exact if_pos granted
  have here : c.inWindow now now = true := by
    rw [inWindow_iff, Nat.sub_self]
    exact positive
  have some := remaining_pos_of_allow granted
  unfold remaining at some ⊢
  rw [held, List.filter_append, filter_dropWhile_expired, List.filter_cons_of_pos here]
  simp only [List.filter_nil, List.length_append, List.length_singleton]
  omega

/-- An admission takes nothing from others. -/
theorem remaining_allow_of_ne (c d : Config) (now later : Instant) {other : String}
    (apart : other ≠ id) :
    (l.allow c now id).2.1.remaining d later other = l.remaining d later other := by
  unfold remaining allow
  dsimp only
  rw [admitted_record_of_ne l apart]

end Limiter

namespace Service

variable {setting : Setting} {r : Notification.Request} {s : State} {p : Pending}
  {recipient : String} {x : Submission}

/-! ## One request -/

/-- All that goes by a request's recipient goes by `recipient`. -/
structure OneRecipient (x : Submission) (s : State) (recipient : String) : Prop where
  /-- It is the recipient trimmed and in lower case; nothing is escaped. -/
  plain : recipient.toList = Text.lowercase (Text.trim x.request.recipient.toList)
  /-- It is what an admission is asked for. -/
  charged : (submit x s).state.pipeline.limiter =
    (s.pipeline.limiter.allow x.setting.config.rate x.setting.clock.asked recipient).2.1
  /-- It is in the record, if one is written. -/
  stored : (submit x s).state.store = s.store ∨
    ∃ record, (submit x s).state.store.records = s.store.records ++ [record] ∧
      record.recipient = recipient
  emails : ∀ email ∈ (submit x s).emails, email.recipient = recipient
  /-- It is what the quota is looked up by. -/
  looked : ∀ config now state, quota config x.request.recipient now state =
    { recipient := recipient
      remaining := .ofNat (Pipeline.remaining config recipient now state.pipeline)
      allowance := config.rate.maxRequests
      windowSeconds := .ofNat config.rate.window.seconds }
  /-- All that comes to it shares its quota. -/
  shared : ∀ other : String, Sanitize.canonical other = recipient → ∀ config now state,
    quota config other now state = quota config x.request.recipient now state
  /-- Spellings that have letter by letter the same lower-case form come to it, capital sigmas
  apart. -/
  spellings : ∀ other : String, 'Σ' ∉ Text.trim other.toList →
    'Σ' ∉ Text.trim x.request.recipient.toList →
    Text.SameLetters (Text.trim other.toList) (Text.trim x.request.recipient.toList) →
    Sanitize.canonical other = recipient
  /-- An admission takes one from it. -/
  counted : 0 < x.setting.config.rate.window.nanos → allows x.setting s recipient = true →
    (quota x.setting.config x.request.recipient x.setting.clock.asked
        (submit x s).state).remaining.toNat + 1 =
      (quota x.setting.config x.request.recipient x.setting.clock.asked s).remaining.toNat
  /-- No request takes from others. -/
  others : ∀ other : String, Sanitize.canonical other ≠ recipient → ∀ config now,
    quota config other now (submit x s).state = quota config other now s

/-! ## What becomes of the limiter and the record -/

theorem run_limiter (c : Pipeline.Config) (jitter : Retry.Jitter)
    (operation : Pipeline.Operation Mail.DeliveryError Unit) (clock : Pipeline.Readings)
    (now : Pipeline.State) :
    (Pipeline.run c jitter operation clock now).state.limiter = now.limiter := by
  unfold Pipeline.run
  dsimp only
  split <;> rfl

/-- An accepted request asks for one admission of its recipient, and nothing else touches the
limiter. -/
theorem send_limiter (accepts : Accepts r recipient) :
    (send setting r s).state.pipeline.limiter =
      (s.pipeline.limiter.allow setting.config.rate setting.clock.asked recipient).2.1 := by
  unfold send
  rw [draft_of_accepts accepts]
  dsimp only [Pipeline.grant]
  split
  · split
    · rfl
    · exact run_limiter ..
  · rfl

theorem submit_limiter (accepts : Accepts x.request recipient) :
    (submit x s).state.pipeline.limiter =
      (s.pipeline.limiter.allow x.setting.config.rate x.setting.clock.asked recipient).2.1 := by
  have went := submit_went x s
  generalize submit x s = turn at went ⊢
  cases went with
  | whole => exact send_limiter accepts
  | broke p pending error answer =>
      have kept := (Pipeline.callTurn_run x.setting.config p.state.pipeline (x.call p)).limiter_eq
      exact kept.trans (pending_of_accepts accepts pending).2.1

/-- What a request leaves in the store and hands to the transport, as far as its recipient goes. -/
structure Traces (s : State) (recipient : String) (store : Store) (emails : List Mail.Outgoing) :
    Prop where
  stored : store = s.store ∨
    ∃ record, store.records = s.store.records ++ [record] ∧ record.recipient = recipient
  emails : ∀ email ∈ emails, email.recipient = recipient

theorem Carries.traces {store : Store} {emails : List Mail.Outgoing}
    (carries : Carries (content r recipient) s.store store emails) :
    Traces s recipient store emails where
  stored := carries.stored.imp_right fun ⟨record, stored, same⟩ =>
    ⟨record, stored, congrArg Mail.Outgoing.recipient same⟩
  emails := fun email member => congrArg Mail.Outgoing.recipient (carries.sent email member)

theorem submit_traces (accepts : Accepts x.request recipient) :
    (submit x s).state.pipeline.limiter =
        (s.pipeline.limiter.allow x.setting.config.rate x.setting.clock.asked recipient).2.1 ∧
      Traces s recipient (submit x s).state.store (submit x s).emails :=
  ⟨submit_limiter accepts, (submit_carries accepts).traces⟩

/-! ## The quota -/

theorem canonical_of_accepts (accepts : Accepts r recipient) :
    recipient = Sanitize.canonical r.recipient := by
  refine Sanitize.email_eq_canonical ?_ accepts.address
  have valid := accepts.valid
  unfold Validation.violations at valid
  by_contra refused
  simp [refused] at valid

/-- Spellings in other letters of the same forms come to one recipient. -/
theorem canonical_congr {one other : String} (sigma : 'Σ' ∉ Text.trim one.toList)
    (otherSigma : 'Σ' ∉ Text.trim other.toList)
    (same : Text.SameLetters (Text.trim one.toList) (Text.trim other.toList)) :
    Sanitize.canonical one = Sanitize.canonical other := by
  unfold Sanitize.canonical
  rw [Text.lowercase_congr sigma otherSigma same]

theorem remaining_toNat (config : Pipeline.Config) (recipient : String) (now : Instant) (s : State) :
    (quota config recipient now s).remaining.toNat =
      s.pipeline.limiter.remaining config.rate now (Sanitize.canonical recipient) := by
  have bound : s.pipeline.limiter.remaining config.rate now (Sanitize.canonical recipient) <
      UInt64.size := Nat.lt_of_le_of_lt (Nat.sub_le ..) config.rate.maxRequests.toNat_lt_size
  exact UInt64.toNat_ofNat_of_lt' bound

/-- **The quota that is reported is the one that is charged.**  Whatever is done with an accepted
request's recipient is done with it as it is looked up: trimmed and in lower case, and with
nothing escaped, as nothing in it is to be escaped. -/
theorem one_recipient (accepts : Accepts x.request recipient) : OneRecipient x s recipient := by
  obtain ⟨charged, traces⟩ := submit_traces (s := s) accepts
  have canonical := canonical_of_accepts accepts
  constructor
  case plain =>
    rw [canonical]
    exact String.toList_ofList
  case charged => exact charged
  case stored => exact traces.stored
  case emails => exact traces.emails
  case looked =>
    intro config now state
    rw [canonical]
    rfl
  case shared =>
    intro other one config now state
    unfold quota
    rw [one, canonical]
  case spellings =>
    intro other sigma otherSigma same
    exact (canonical_congr sigma otherSigma same).trans canonical.symm
  case counted =>
    intro positive granted
    rw [remaining_toNat, remaining_toNat, ← canonical, charged]
    exact Limiter.remaining_allow_self positive granted
  case others =>
    intro other apart config now
    unfold quota Pipeline.remaining
    dsimp only
    rw [charged, Limiter.remaining_allow_of_ne _ _ _ _ apart]

/-- A request whose recipient is written in capitals. -/
def capitals : Submission := { welcome 0 .none with
  request := ⟨"Guest@B.CO", "s", "b", .welcomeEmail⟩ }

theorem accepts_capitals : Accepts capitals.request "guest@b.co" := by
  constructor
  · decide
  · have read : (Sanitize.email capitals.request.recipient).toOption = some "guest@b.co" := by
      decide
    cases taken : Sanitize.email capitals.request.recipient with
    | error e =>
        rw [taken] at read
        cases read
    | ok address =>
        rw [taken] at read
        rw [Option.some.inj read]

/-- It is charged as it is looked up, in capitals or not, and another recipient is not. -/
theorem one_recipient_capitals :
    OneRecipient capitals .initial "guest@b.co" ∧
      (quota capitals.setting.config "Guest@B.CO" 0 (submit capitals .initial).state).remaining.toNat
        + 1 = 5 ∧
      quota capitals.setting.config "guest@b.co" 0 (submit capitals .initial).state =
        quota capitals.setting.config "Guest@B.CO" 0 (submit capitals .initial).state ∧
      quota capitals.setting.config "host@b.co" 0 (submit capitals .initial).state =
        quota capitals.setting.config "host@b.co" 0 .initial := by
  have one := one_recipient (s := .initial) accepts_capitals
  refine ⟨one, ?_, ?_, ?_⟩
  · exact (one.counted (by decide) (by decide)).trans (by decide)
  · refine one.shared "guest@b.co" (one.spellings _ ?_ ?_ ?_) _ _ _
    · decide
    · decide
    · decide
  · exact one.others "host@b.co" (by decide) _ _

/-! ## A capital sigma

By itself it has the form of a small one, at the end of a word another. -/

theorem lowercase_guest (c : Char) :
    Text.lowercase ("guest@a".toList ++ [c]) =
      "guest@a".toList ++ Text.lowerChar "a@tseug".toList c [] := by
  rw [Text.lowercase, Text.lowerFrom_append (by decide)]
  simp only [Text.lowerFrom, List.append_nil]
  rfl

theorem canonical_sigma : Sanitize.canonical "guest@aσ" = "guest@aσ" := by
  have trimmed : Text.trim "guest@aσ".toList = "guest@a".toList ++ ['σ'] := by decide
  rw [Sanitize.canonical, trimmed, lowercase_guest, Text.lowerChar_eq_lowerForm (by decide),
    Text.lowerForm_sigma]
  decide

theorem canonical_capitalSigma : Sanitize.canonical "guest@aΣ" = "guest@aς" := by
  have trimmed : Text.trim "guest@aΣ".toList = "guest@a".toList ++ ['Σ'] := by decide
  have final : Text.lowerChar "a@tseug".toList 'Σ' [] = ['ς'] := Text.lowerChar_finalSigma _
  rw [Sanitize.canonical, trimmed, lowercase_guest, final]
  decide

theorem parts_sigma : "guest@aσ".toList = "guest".toList ++ '@' :: ['a', 'σ'] := by
  decide

theorem isEmail_sigma : Validation.isEmail "guest@aσ".toList = true := by
  have plain : Validation.isPlainDomain "xn--a-0mb".toList = true := by decide
  have domain : Validation.isDomain ['a', 'σ'] = true := by
    rw [Validation.isDomain, Idna.toAscii_sigma, Option.any_some, plain, Bool.or_true]
  rw [parts_sigma]
  exact Validation.isEmail_append (by decide) (by decide) (by decide) (by decide) domain

theorem isName_sigma : Mail.Address.isName ['a', 'σ'] = true := by
  have bare : Mail.Address.bracketed? ['a', 'σ'] = none := by decide
  have one : Idna.labels ['a', 'σ'] = [['a', 'σ']] := by decide
  have first : Text.isAlphanumeric 'a' = true := by decide
  have ends : ['a', 'σ'].getLast? = some 'σ' := rfl
  have chars : ['a', 'σ'].all Mail.Address.isAtomChar = true := by
    simp only [List.all_cons, List.all_nil, Mail.Address.isAtomChar, first,
      Text.isAlphanumeric_sigma, Bool.true_or, Bool.and_self]
  have label : Mail.Address.isLabel ['a', 'σ'] = true := by
    rw [Mail.Address.isLabel, List.head?_cons, Option.any_some, first, ends, Option.any_some,
      Text.isAlphanumeric_sigma, chars]
    decide
  rw [Mail.Address.isName, bare]
  dsimp only
  rw [one, List.all_cons, label]
  decide

theorem email_sigma : Sanitize.email "guest@aσ" = .ok "guest@aσ" := by
  have user : Mail.Address.isUser "guest".toList = true := by decide
  have domain : Mail.Address.isDomain ['a', 'σ'] = true := by
    rw [Mail.Address.isDomain, Mail.Address.isPlainDomain, isName_sigma, Bool.true_or, Bool.true_or]
  have read : Mail.Address.read "guest@aσ".toList = .ok ⟨"guest".toList, ['a', 'σ']⟩ := by
    rw [parts_sigma, Mail.Address.read_append _ (by decide), Mail.Address.ofParts, domain, user]
    rfl
  have free : Text.Entity.escape "guest@aσ".toList = "guest@aσ".toList :=
    Text.Entity.escape_eq_self (by decide)
  rw [Sanitize.email, canonical_sigma, free, read, String.ofList_toList]

/-- A request to an address that ends in a sigma. -/
def toSigma : Submission := { welcome 0 .none with
  request := ⟨"guest@aσ", "s", "b", .welcomeEmail⟩ }

theorem accepts_toSigma : Accepts toSigma.request "guest@aσ" := by
  constructor
  case valid =>
    refine List.append_eq_nil_iff.mpr ⟨List.append_eq_nil_iff.mpr ⟨if_pos isEmail_sigma, ?_⟩, ?_⟩
    · decide
    · decide
  case address => exact email_sigma

/-- The quota of a spelling with a capital sigma is another one. -/
theorem quota_apart_of_capitalSigma :
    Accepts toSigma.request "guest@aσ" ∧
      Text.SameLetters "guest@aΣ".toList "guest@aσ".toList ∧
      (quota toSigma.setting.config "guest@aσ" 0 (submit toSigma .initial).state).remaining.toNat
        = 4 ∧
      (quota toSigma.setting.config "guest@aΣ" 0 (submit toSigma .initial).state).remaining.toNat
        = 5 := by
  refine ⟨accepts_toSigma, ?_, ?_, ?_⟩
  · have forms (c : Char) : ("guest@a".toList ++ [c]).map Text.lowerForm =
        "guest@a".toList.map Text.lowerForm ++ [Text.lowerForm c] := by
      rw [List.map_append, List.map_singleton]
    have capital := forms 'Σ'
    have small := forms 'σ'
    rw [Text.lowerForm_capitalSigma] at capital
    rw [Text.lowerForm_sigma] at small
    exact capital.trans small.symm
  · rw [remaining_toNat, canonical_sigma, (submit_traces accepts_toSigma).1]
    decide
  · rw [remaining_toNat, canonical_capitalSigma, (submit_traces accepts_toSigma).1,
      Limiter.remaining_allow_of_ne _ _ _ _ (by decide)]
    decide

end Service

end Courier
