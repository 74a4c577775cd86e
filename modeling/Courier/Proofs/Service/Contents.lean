/-
# Courier.Proofs.Service.Contents -- what is in the record and on the emails of a request

An accepted request has one content: its recipient's address and its sanitised subject and body.
The record that is written and all emails that go out carry it (`submit_carries`); a request that
is not accepted leaves no trace (`submit_of_refused`).

The check of requests asks subject and body for a character each, but of the raw texts, which are
trimmed afterwards.  `empty_iff_blank` says what comes of it: what is stored and what goes out is
empty just where the text is all blanks, and such texts pass the check.
-/
import Courier.Proofs.Sanitize.Lossless
import Courier.Proofs.Service.Counted

namespace Courier.Service

set_option autoImplicit false

open Mail (Outgoing)

variable {setting : Setting} {r : Notification.Request} {s : State} {p : Pending}
  {recipient : String} {x : Submission}

/-! ## Accepted requests -/

/-- The email that an accepted request is about. -/
def content (r : Notification.Request) (recipient : String) : Outgoing :=
  ⟨recipient, Sanitize.subject r.subject, Sanitize.body r.body⟩

/-- What is written to the store and handed to the transport is one email. -/
structure Carries (email : Outgoing) (before after : Store) (emails : List Outgoing) : Prop where
  stored : after = before ∨
    ∃ record, after.records = before.records ++ [record] ∧ emailOf record = email
  sent : ∀ e ∈ emails, e = email

theorem carries_of_nothing (email : Outgoing) (store : Store) : Carries email store store [] :=
  ⟨.inl rfl, fun _ member => nomatch member⟩

theorem send_carries (accepts : Accepts r recipient) :
    Carries (content r recipient) s.store (send setting r s).state.store
      (send setting r s).emails := by
  cases granted : allows setting s recipient with
  | false =>
      obtain ⟨-, store, emails⟩ := send_of_limited accepts granted
      rw [store, emails]
      exact carries_of_nothing _ s.store
  | true =>
      cases writes : attempt setting.faults.create
          (s.store.create (pendingRecord setting r recipient)) with
      | error e =>
          obtain ⟨-, store, emails⟩ := send_of_unwritten accepts granted writes
          rw [store, emails]
          exact carries_of_nothing _ s.store
      | ok store =>
          obtain ⟨n, record, delivery⟩ := delivery_of_written accepts granted writes
          have same : emailOf record = content r recipient := delivery.content
          refine ⟨.inr ⟨record, delivery.stored, same⟩, ?_⟩
          intro email member
          rw [delivery.emails] at member
          rw [List.eq_of_mem_replicate member, same]

/-- A request whose record is written has been charged, and the record stands last. -/
theorem pending_of_accepts (accepts : Accepts r recipient) (pending : pending? setting r s = some p) :
    p.draft.outgoing = content r recipient ∧
      p.state.pipeline.limiter =
        (s.pipeline.limiter.allow setting.config.rate setting.clock.asked recipient).2.1 ∧
      p.state.store = ⟨s.store.records ++ [pendingRecord setting r recipient]⟩ := by
  unfold pending? at pending
  rw [draft_of_accepts accepts] at pending
  dsimp only at pending
  split at pending
  · rename_i store granted writes
    obtain ⟨-, rfl⟩ := create_of_written writes
    cases pending
    exact ⟨rfl, rfl, rfl⟩
  · cases pending

/-- The same of a request whose pauses may be drawn at random, and which may break off. -/
theorem submit_carries (accepts : Accepts x.request recipient) :
    Carries (content x.request recipient) s.store (submit x s).state.store
      (submit x s).emails := by
  have went := submit_went x s
  generalize submit x s = turn at went ⊢
  cases went with
  | whole => exact send_carries accepts
  | broke p pending error answer =>
      obtain ⟨same, -, stored⟩ := pending_of_accepts accepts pending
      refine ⟨.inr ⟨_, congrArg Store.records stored, rfl⟩, ?_⟩
      intro email member
      rw [List.eq_of_mem_replicate member, same]

/-! ## Other requests -/

theorem invalid_of_refused (refused : ∀ recipient, ¬ Accepts r recipient) :
    Validation.violations r ≠ [] ∨ ∃ e, Sanitize.email r.recipient = .error e := by
  by_cases valid : Validation.violations r = []
  · cases address : Sanitize.email r.recipient with
    | error e => exact .inr ⟨e, rfl⟩
    | ok recipient => exact absurd ⟨valid, address⟩ (refused recipient)
  · exact .inl valid

theorem submit_of_refused (refused : ∀ recipient, ¬ Accepts x.request recipient) :
    (submit x s).state = s ∧ (submit x s).emails = [] := by
  obtain ⟨why, invalid⟩ := draft_of_invalid (invalid_of_refused refused)
  have ended : x.pending? s = none := by
    unfold Submission.pending? pending?
    rw [invalid]
  rw [submit_of_not_pending ended]
  exact (send_of_invalid x.inForce s invalid).2

/-! ## Empty texts -/

/-- A text of blanks, or of nothing. -/
def Blank (text : String) : Prop := ∀ c ∈ text.toList, Text.isBlank c = true

/-- A subject and a body are empty just where those of the request are blank. -/
structure EmptyIfBlank (r : Notification.Request) (subject body : String) : Prop where
  subject : subject = "" ↔ Blank r.subject
  body : body = "" ↔ Blank r.body

theorem emptyIfBlank_content (r : Notification.Request) (recipient : String) :
    EmptyIfBlank r (content r recipient).subject (content r recipient).body where
  subject := (Sanitize.text_eq_empty_iff r.subject Sanitize.maxSubject).trans
    (or_iff_right (by decide))
  body := (Sanitize.text_eq_empty_iff r.body Sanitize.maxBody).trans (or_iff_right (by decide))

theorem ne_empty_of_valid (valid : Validation.violations r = []) : r.subject ≠ "" ∧ r.body ≠ "" := by
  unfold Validation.violations at valid
  obtain ⟨first, body⟩ := List.append_eq_nil_iff.mp valid
  obtain ⟨-, subject⟩ := List.append_eq_nil_iff.mp first
  constructor
  · intro nothing
    rw [nothing] at subject
    cases subject
  · intro nothing
    rw [nothing] at body
    cases body

/-- **A stored or sent text is empty just where the text asked for is blank.**  For any request in
any state: every email that is handed to the transport, and the record if one is written, has an
empty subject just for a request with a subject of blanks, and so it is with the body.  The check
that both have a character keeps texts of nothing away, and not texts of blanks. -/
theorem empty_iff_blank (x : Submission) (s : State) :
    (∀ email ∈ (submit x s).emails, EmptyIfBlank x.request email.subject email.body) ∧
      ((submit x s).state.store = s.store ∨
        ∃ record, (submit x s).state.store.records = s.store.records ++ [record] ∧
          EmptyIfBlank x.request record.subject record.body) ∧
      ((submit x s).state.store ≠ s.store ∨ (submit x s).emails ≠ [] →
        x.request.subject ≠ "" ∧ x.request.body ≠ "") := by
  by_cases accepted : ∃ recipient, Accepts x.request recipient
  · obtain ⟨recipient, accepts⟩ := accepted
    have carries := submit_carries (s := s) accepts
    have empty := emptyIfBlank_content x.request recipient
    refine ⟨?_, ?_, fun _ => ne_empty_of_valid accepts.valid⟩
    · intro email member
      rw [carries.sent email member]
      exact empty
    · obtain unchanged | ⟨record, stored, same⟩ := carries.stored
      · exact .inl unchanged
      · rw [← same] at empty
        exact .inr ⟨record, stored, empty⟩
  · obtain ⟨state, emails⟩ := submit_of_refused (s := s) (not_exists.mp accepted)
    rw [state, emails]
    refine ⟨?_, .inl rfl, ?_⟩
    · intro email member
      cases member
    · rintro (changed | some)
      · exact absurd rfl changed
      · exact absurd rfl some

/-- A request with a subject of blanks. -/
def blankSubject : Submission := { welcome 0 .none with
  request := ⟨"a@b.co", "   ", "b", .welcomeEmail⟩ }

/-- It passes the check, is stored and goes out, without a subject. -/
example :
    Validation.violations blankSubject.request = [] ∧
      (submit blankSubject .initial).emails.map (·.subject) = ["", ""] ∧
      (submit blankSubject .initial).state.store.records.map (·.subject) = [""] := by
  decide +kernel

end Courier.Service
