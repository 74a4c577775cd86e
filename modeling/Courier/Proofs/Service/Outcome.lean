/-
# Courier.Proofs.Service.Outcome -- what a request ends in, and what it leaves behind

A request to send an email passes six stages, and each can end it: checks, quota, the
writing of the record, the breaker, the attempts, and the update of the record.
`SendOutcome` is the table of all of these: for every stage, when a request ends there,
what it answers, what the store holds afterwards, and which emails went out.

Its last row is `Delivery`, the end of a request whose record has been written.  The
number of emails is that of the attempts, which is none when the breaker rejects the
call and otherwise that of `Retry.LastAttempt`; all of them have the content of the
record.  An attempt ends as the transport answers if it is over in time, and in an error of
its own otherwise.  Of the four ways to end (`Ending`) two leave the record pending: the store
could not mark it, and the answer is the store's fault, together with the failure that
was to be marked if there was one.

Nothing is asked of the state, the layers' settings or the faults of the store: an id
that is taken already is one more reason why a record cannot be written.  A store may
even answer with an error that is not its own to give, such as a failed delivery;
`Delivery.failure` sets that case aside.
-/
import Courier.Proofs.Pipeline.Run
import Courier.Proofs.Store.Records
import Courier.Service

namespace Courier.Service

set_option autoImplicit false

open Mail (DeliveryError Outgoing)
open Retry (LastAttempt)

/-! ## The table -/

/-- A request passes its checks, and this is its recipient's address. -/
structure Accepts (r : Notification.Request) (recipient : String) : Prop where
  valid : Validation.violations r = []
  address : Sanitize.email r.recipient = .ok recipient

/-- The record of a request before its delivery. -/
def pendingRecord (setting : Setting) (r : Notification.Request) (recipient : String) :
    Notification :=
  .fresh (Notification.idOf setting.fresh) recipient (Sanitize.subject r.subject)
    (Sanitize.body r.body) r.kind setting.createdAt

/-- The email that a record is about. -/
def emailOf (n : Notification) : Outgoing := ⟨n.recipient, n.subject, n.body⟩

/-- Whether the limiter lets a recipient have one more email. -/
def allows (setting : Setting) (s : State) (recipient : String) : Bool :=
  (s.pipeline.limiter.allow setting.config.rate setting.clock.asked recipient).1

/-- The breaker lets nothing through. -/
def Rejects (setting : Setting) (s : State) : Prop :=
  (s.pipeline.breaker.enter setting.config.circuit setting.clock.started).permit = none

/-- How an attempt to hand over an email ends, counted from zero; running past the
limit is an error of its own. -/
def attemptOutcome (setting : Setting) (email : Outgoing) (k : Nat) : Except DeliveryError Unit :=
  (Timeout.attempt .ofTimedOut setting.config.timeout (setting.transport email k)).outcome

/-- Why an email did not go out in `n` attempts. -/
inductive Cause (outcomes : Nat → Except DeliveryError Unit) : Nat → ServiceError → Prop where
  | rejected : Cause outcomes 0 .circuitOpen
  | gaveUp (n : Nat) (error : DeliveryError) (positive : 1 ≤ n)
      (last : outcomes (n - 1) = .error error) : Cause outcomes n (.sendFailed n error)

/-- How a request ends after `n` attempts, and its record then: the record is marked
unless the store fails, which then is told. -/
inductive Ending (setting : Setting) (pending : Notification) (n : Nat) :
    Except ServiceError Notification.Receipt → Notification → Prop where
  | sent (receipt : Notification.Receipt)
      (delivered : 1 ≤ n ∧ attemptOutcome setting (emailOf pending) (n - 1) = .ok ())
      (written : setting.faults.sent = none) (named : receipt.id = pending.id)
      (attempts : receipt.attempts.toNat = n) :
      Ending setting pending n (.ok receipt) (pending.markSent setting.finishedAt (retries n))
  | sentUnmarked (e : ServiceError)
      (delivered : 1 ≤ n ∧ attemptOutcome setting (emailOf pending) (n - 1) = .ok ())
      (fault : setting.faults.sent = some e) : Ending setting pending n (.error e) pending
  | failed (cause : ServiceError) (why : Cause (attemptOutcome setting (emailOf pending)) n cause)
      (written : setting.faults.failed = none) :
      Ending setting pending n (.error cause) (pending.markFailed cause.message (retries n))
  | failedUnmarked (cause e : ServiceError)
      (why : Cause (attemptOutcome setting (emailOf pending)) n cause)
      (fault : setting.faults.failed = some e) :
      Ending setting pending n (.error (.statusUpdate cause e)) pending

/-- A request whose record has been written ends with `n` emails and with this record. -/
structure Delivery (setting : Setting) (s : State) (pending : Notification) (report : Report)
    (n : Nat) (record : Notification) : Prop where
  content : emailOf record = emailOf pending
  emails : report.emails = List.replicate n (emailOf record)
  stored : report.state.store.records = s.store.records ++ [record]
  rejected : Rejects setting s → n = 0
  attempted : ¬ Rejects setting s → LastAttempt DeliveryError.isRetryable
    (attemptOutcome setting (emailOf record)) setting.config.policy.attempts n
  /-- An attempt that is over in time ends as the transport answers. -/
  inTime : ∀ k,
    Timeout.finishes setting.config.timeout (setting.transport (emailOf record) k) = true →
      attemptOutcome setting (emailOf record) k = (setting.transport (emailOf record) k).value
  /-- One that is not has failed, with an error of its own. -/
  timedOut : ∀ k,
    Timeout.finishes setting.config.timeout (setting.transport (emailOf record) k) = false →
      attemptOutcome setting (emailOf record) k = .error (.timedOut setting.config.timeout)
  ending : Ending setting pending n report.outcome record
  /-- A receipt is given out only for an email that its record shows as sent. -/
  receipt : ∀ receipt, report.outcome = .ok receipt →
    receipt.id = record.id ∧ receipt.attempts.toNat = n ∧ record.status = .sent ∧
      record.sentAt = some setting.finishedAt ∧ record.error = none ∧
      record.retryCount.toNat = n - 1
  /-- A failure is told by itself only if its record shows it. -/
  failure : ∀ cause, report.outcome = .error cause → setting.faults.sent ≠ some cause →
    (cause = .circuitOpen ∨ ∃ m e, cause = .sendFailed m e) →
      Cause (attemptOutcome setting (emailOf record)) n cause ∧ record.status = .failed ∧
        record.sentAt = none ∧ record.error = some cause.message ∧
        record.retryCount.toNat = n - 1

/-- What becomes of a request, by the stage at which it ends. -/
structure SendOutcome (setting : Setting) (r : Notification.Request) (s : State)
    (report : Report) : Prop where
  invalid : (Validation.violations r ≠ [] ∨ ∃ e, Sanitize.email r.recipient = .error e) →
    (∃ why, report.outcome = .error (.validation why)) ∧ report.state = s ∧ report.emails = []
  limited : ∀ recipient, Accepts r recipient → allows setting s recipient = false →
    report.outcome = .error (.rateLimited recipient) ∧ report.state.store = s.store ∧
      report.emails = []
  unwritten : ∀ recipient e, Accepts r recipient → allows setting s recipient = true →
    attempt setting.faults.create (s.store.create (pendingRecord setting r recipient)) =
      .error e →
    report.outcome = .error e ∧ report.state.store = s.store ∧ report.emails = []
  written : ∀ recipient store, Accepts r recipient → allows setting s recipient = true →
    attempt setting.faults.create (s.store.create (pendingRecord setting r recipient)) =
      .ok store →
    ∃ n record, Delivery setting s (pendingRecord setting r recipient) report n record

variable {setting : Setting} {r : Notification.Request} {s : State} {recipient : String}

/-! ## The attempts -/

/-- The hand-over of an email, as work that is tried again. -/
def handOver (setting : Setting) (email : Outgoing) : Pipeline.Operation DeliveryError Unit :=
  ⟨setting.transport email, .ofTimedOut, DeliveryError.isRetryable⟩

theorem outcome_handOver (setting : Setting) (email : Outgoing) :
    (handOver setting email).outcome setting.config = attemptOutcome setting email := rfl

theorem attemptOutcome_of_finishes {email : Outgoing} {k : Nat}
    (inTime : Timeout.finishes setting.config.timeout (setting.transport email k) = true) :
    attemptOutcome setting email k = (setting.transport email k).value := by
  rw [← outcome_handOver]
  exact Pipeline.outcome_of_finishes inTime

theorem attemptOutcome_of_cut {email : Outgoing} {k : Nat}
    (cut : Timeout.finishes setting.config.timeout (setting.transport email k) = false) :
    attemptOutcome setting email k = .error (.timedOut setting.config.timeout) := by
  rw [← outcome_handOver]
  exact Pipeline.outcome_of_cut cut

/-! ## The checks -/

theorem draft_of_accepts (accepts : Accepts r recipient) :
    draft r = .ok ⟨recipient, Sanitize.subject r.subject, Sanitize.body r.body, r.kind⟩ := by
  unfold draft
  rw [accepts.valid, accepts.address]
  rfl

theorem email_error {text : String} {e : ServiceError} (refused : Sanitize.email text = .error e) :
    ∃ why, e = .validation why := by
  unfold Sanitize.email at refused
  simp only at refused
  split at refused
  · cases refused
  · cases refused
    exact ⟨_, rfl⟩

theorem draft_of_invalid
    (invalid : Validation.violations r ≠ [] ∨ ∃ e, Sanitize.email r.recipient = .error e) :
    ∃ why, draft r = .error (.validation why) := by
  unfold draft
  cases found : Validation.violations r with
  | cons violation violations => exact ⟨_, rfl⟩
  | nil =>
      rcases invalid with some | ⟨e, refused⟩
      · exact absurd found some
      · obtain ⟨why, rfl⟩ := email_error refused
        exact ⟨why, by rw [refused]; rfl⟩

/-! ## The update of the record -/

variable {pending : Notification} {store : Store} {d : Draft} {n : Nat}

theorem finishSent_ending (absent : store.find? pending.id = none) (few : n < UInt32.size)
    (delivered : 1 ≤ n ∧ attemptOutcome setting (emailOf pending) (n - 1) = .ok ()) :
    ∃ record, (finishSent setting d pending.id n ⟨store.records ++ [pending]⟩).2.1.records =
        store.records ++ [record] ∧
      Ending setting pending n
        (finishSent setting d pending.id n ⟨store.records ++ [pending]⟩).1 record := by
  have marked : (⟨store.records ++ [pending]⟩ : Store).markSent pending.id setting.finishedAt
      (retries n) = .ok ⟨store.records ++ [pending.markSent setting.finishedAt (retries n)]⟩ :=
    Store.update_concat absent _
  unfold finishSent
  rw [marked]
  cases fault : setting.faults.sent with
  | none => exact ⟨_, rfl, .sent _ delivered fault rfl (UInt32.toNat_ofNat_of_lt' few)⟩
  | some e => exact ⟨pending, rfl, .sentUnmarked e delivered fault⟩

theorem finishFailed_ending (absent : store.find? pending.id = none)
    {reason : Pipeline.Failure DeliveryError} (count : reason.attempts = n)
    (why : Cause (attemptOutcome setting (emailOf pending)) n (failure reason).1) :
    ∃ record, (finishFailed setting d pending.id reason ⟨store.records ++ [pending]⟩).2.1.records =
        store.records ++ [record] ∧
      Ending setting pending n
        (finishFailed setting d pending.id reason ⟨store.records ++ [pending]⟩).1 record := by
  have marked : (⟨store.records ++ [pending]⟩ : Store).markFailed pending.id
      (failure reason).1.message (retries n) =
      .ok ⟨store.records ++ [pending.markFailed (failure reason).1.message (retries n)]⟩ :=
    Store.update_concat absent _
  unfold finishFailed
  simp only [count]
  rw [marked]
  cases fault : setting.faults.failed with
  | none => exact ⟨_, rfl, .failed _ why fault⟩
  | some e => exact ⟨pending, rfl, .failedUnmarked _ e why fault⟩

/-! ## What an ending says of the record -/

theorem retries_toNat (few : n < UInt32.size) : (retries n).toNat = n - 1 :=
  UInt32.toNat_ofNat_of_lt' (Nat.lt_of_le_of_lt (Nat.sub_le n 1) few)

namespace Ending

variable {outcome : Except ServiceError Notification.Receipt} {record : Notification}

/-- No update of a record changes what its email says. -/
theorem content (ending : Ending setting pending n outcome record) :
    emailOf record = emailOf pending := by
  cases ending with
  | sent | sentUnmarked | failed | failedUnmarked => rfl

theorem receipt (ending : Ending setting pending n outcome record) (few : n < UInt32.size)
    (clean : pending.error = none) {receipt : Notification.Receipt}
    (told : outcome = .ok receipt) :
    receipt.id = record.id ∧ receipt.attempts.toNat = n ∧ record.status = .sent ∧
      record.sentAt = some setting.finishedAt ∧ record.error = none ∧
      record.retryCount.toNat = n - 1 := by
  cases ending with
  | sent given delivered written named attempts =>
      cases told
      exact ⟨named, attempts, rfl, rfl, clean, retries_toNat few⟩
  | sentUnmarked | failed | failedUnmarked => cases told

theorem failure (ending : Ending setting pending n outcome record) (few : n < UInt32.size)
    (unsent : pending.sentAt = none) {cause : ServiceError} (told : outcome = .error cause)
    (own : setting.faults.sent ≠ some cause)
    (shape : cause = .circuitOpen ∨ ∃ m e, cause = .sendFailed m e) :
    Cause (attemptOutcome setting (emailOf record)) n cause ∧ record.status = .failed ∧
      record.sentAt = none ∧ record.error = some cause.message ∧
      record.retryCount.toNat = n - 1 := by
  cases ending with
  | sent => cases told
  | sentUnmarked e delivered fault =>
      cases told
      exact absurd fault own
  | failed given why written =>
      cases told
      exact ⟨why, rfl, unsent, rfl, retries_toNat few⟩
  | failedUnmarked given e why fault =>
      -- both errors are told together, so neither of the two shapes is possible
      cases told
      rcases shape with same | ⟨m, error, same⟩
      · cases same
      · cases same

end Ending

/-! ## The delivery -/

/-- The layers' answer for a draft. -/
def answer (setting : Setting) (d : Draft) (s : State) :
    Except (Pipeline.Failure DeliveryError) (Pipeline.Completed Unit) :=
  (Pipeline.run setting.config setting.jitter (operation setting d) setting.clock
    s.pipeline).outcome

theorem deliver_of_completed {completed : Pipeline.Completed Unit}
    (written : s.store = ⟨store.records ++ [pending]⟩) (absent : store.find? pending.id = none)
    (ok : answer setting d s = .ok completed) (few : completed.attempts < UInt32.size)
    (delivered : 1 ≤ completed.attempts ∧
      attemptOutcome setting (emailOf pending) (completed.attempts - 1) = .ok ()) :
    ∃ record, (deliver setting d pending.id s).state.store.records = store.records ++ [record] ∧
      Ending setting pending completed.attempts (deliver setting d pending.id s).outcome
        record := by
  have ends := finishSent_ending (d := d) absent few delivered
  rw [← written] at ends
  unfold answer at ok
  unfold deliver
  simp only [ok]
  exact ends

theorem deliver_of_failed {reason : Pipeline.Failure DeliveryError}
    (written : s.store = ⟨store.records ++ [pending]⟩) (absent : store.find? pending.id = none)
    (failed : answer setting d s = .error reason)
    (why : Cause (attemptOutcome setting (emailOf pending)) reason.attempts (failure reason).1) :
    ∃ record, (deliver setting d pending.id s).state.store.records = store.records ++ [record] ∧
      Ending setting pending reason.attempts (deliver setting d pending.id s).outcome
        record := by
  have ends := finishFailed_ending (d := d) absent rfl why
  rw [← written] at ends
  unfold answer at failed
  unfold deliver
  simp only [failed]
  exact ends

/-- The delivery of a draft whose record stands last in the store. -/
theorem deliver_ending (setting : Setting) (written : s.store = ⟨store.records ++ [pending]⟩)
    (absent : store.find? pending.id = none) (email : d.outgoing = emailOf pending) :
    ∃ n record, n < UInt32.size ∧
      (deliver setting d pending.id s).emails = List.replicate n (emailOf pending) ∧
      (deliver setting d pending.id s).state.store.records = store.records ++ [record] ∧
      (Rejects setting s → n = 0) ∧
      (¬ Rejects setting s → LastAttempt DeliveryError.isRetryable
        (attemptOutcome setting (emailOf pending)) setting.config.policy.attempts n) ∧
      Ending setting pending n (deliver setting d pending.id s).outcome record := by
  have emails : ∀ {n : Nat}, (Pipeline.run setting.config setting.jitter (operation setting d)
      setting.clock s.pipeline).calls = n →
      (deliver setting d pending.id s).emails = List.replicate n (emailOf pending) := by
    intro n calls
    rw [← calls, ← email]
    rfl
  cases admission :
      (s.pipeline.breaker.enter setting.config.circuit setting.clock.started).permit with
  | none =>
      obtain ⟨calls, outcome⟩ :=
        Pipeline.run_of_rejected setting.config setting.jitter (operation setting d) admission
      obtain ⟨record, stored, ending⟩ := deliver_of_failed written absent outcome .rejected
      refine ⟨0, record, by decide, emails calls, stored, fun _ => rfl, ?_, ending⟩
      exact fun lets => absurd admission lets
  | some permit =>
      obtain ⟨n, lastOne, calls, outcome⟩ :=
        Pipeline.run_of_admitted setting.config setting.jitter (operation setting d) admission
      have same : (operation setting d).outcome setting.config =
          attemptOutcome setting (emailOf pending) := by
        rw [← email]
        rfl
      rw [same] at lastOne outcome
      have few := Nat.lt_of_le_of_lt lastOne.capped setting.config.policy.attempts_lt
      have lets : ¬ Rejects setting s := by
        intro rejects
        rw [Rejects, admission] at rejects
        cases rejects
      have ends : ∃ record, (deliver setting d pending.id s).state.store.records =
          store.records ++ [record] ∧
            Ending setting pending n (deliver setting d pending.id s).outcome record := by
        cases last : attemptOutcome setting (emailOf pending) (n - 1) with
        | ok value =>
            rw [last] at outcome
            exact deliver_of_completed written absent outcome few ⟨lastOne.positive, last⟩
        | error error =>
            rw [last] at outcome
            exact deliver_of_failed written absent outcome
              (.gaveUp n error lastOne.positive last)
      obtain ⟨record, stored, ending⟩ := ends
      exact ⟨n, record, few, emails calls, stored, fun rejects => absurd rejects lets,
        fun _ => lastOne, ending⟩

/-! ## The request -/

theorem send_of_invalid (setting : Setting) (s : State) {why : Invalid}
    (invalid : draft r = .error (.validation why)) :
    (send setting r s).outcome = .error (.validation why) ∧ (send setting r s).state = s ∧
      (send setting r s).emails = [] := by
  unfold send
  rw [invalid]
  exact ⟨rfl, rfl, rfl⟩

theorem send_of_limited (accepts : Accepts r recipient)
    (denied : allows setting s recipient = false) :
    (send setting r s).outcome = .error (.rateLimited recipient) ∧
      (send setting r s).state.store = s.store ∧ (send setting r s).emails = [] := by
  unfold allows at denied
  unfold send Pipeline.grant
  simp only [draft_of_accepts accepts, denied, Bool.false_eq_true, if_false, and_self]

theorem send_of_unwritten {e : ServiceError} (accepts : Accepts r recipient)
    (granted : allows setting s recipient = true)
    (fails : attempt setting.faults.create
      (s.store.create (pendingRecord setting r recipient)) = .error e) :
    (send setting r s).outcome = .error e ∧ (send setting r s).state.store = s.store ∧
      (send setting r s).emails = [] := by
  unfold allows at granted
  unfold pendingRecord at fails
  unfold send Pipeline.grant
  simp only [draft_of_accepts accepts, granted, if_true, fails, and_self]

theorem create_of_written
    (writes : attempt setting.faults.create (s.store.create pending) = .ok store) :
    s.store.find? pending.id = none ∧ store = ⟨s.store.records ++ [pending]⟩ := by
  unfold attempt at writes
  split at writes
  · cases writes
  · exact Store.create_eq_ok_iff.mp writes

/-- A written request is delivered in a state that only the limiter and the store have
changed. -/
theorem send_of_written (accepts : Accepts r recipient)
    (granted : allows setting s recipient = true)
    (writes : attempt setting.faults.create
      (s.store.create (pendingRecord setting r recipient)) = .ok store) :
    ∃ d, ∃ charged : State, d.outgoing = emailOf (pendingRecord setting r recipient) ∧
      charged.store = store ∧ charged.pipeline.breaker = s.pipeline.breaker ∧
      (send setting r s).outcome =
        (deliver setting d (pendingRecord setting r recipient).id charged).outcome ∧
      (send setting r s).state =
        (deliver setting d (pendingRecord setting r recipient).id charged).state ∧
      (send setting r s).emails =
        (deliver setting d (pendingRecord setting r recipient).id charged).emails := by
  refine ⟨⟨recipient, Sanitize.subject r.subject, Sanitize.body r.body, r.kind⟩,
    ⟨(Pipeline.grant setting.config recipient setting.clock.asked s.pipeline).2.1, store⟩,
    rfl, rfl, rfl, ?_⟩
  unfold allows at granted
  unfold pendingRecord at writes
  unfold send Pipeline.grant
  simp only [draft_of_accepts accepts, granted, if_true, writes]
  exact ⟨rfl, rfl, rfl⟩

theorem delivery_of_written (accepts : Accepts r recipient)
    (granted : allows setting s recipient = true)
    (writes : attempt setting.faults.create
      (s.store.create (pendingRecord setting r recipient)) = .ok store) :
    ∃ n record, Delivery setting s (pendingRecord setting r recipient) (send setting r s) n
      record := by
  obtain ⟨d, charged, email, last, breaker, outcome, state, emails⟩ :=
    send_of_written accepts granted writes
  obtain ⟨absent, rfl⟩ := create_of_written writes
  obtain ⟨n, record, few, sent, stored, rejected, attempted, ending⟩ :=
    deliver_ending setting last absent email
  have same : Rejects setting charged ↔ Rejects setting s := by
    unfold Rejects
    rw [breaker]
  rw [← outcome] at ending
  refine ⟨n, record, ?_⟩
  constructor
  case content => exact ending.content
  case emails => rw [emails, sent, ending.content]
  case stored => rw [state, stored]
  case rejected => exact fun rejects => rejected (same.mpr rejects)
  case attempted =>
    rw [ending.content]
    exact fun lets => attempted fun rejects => lets (same.mp rejects)
  case inTime => exact fun k inTime => attemptOutcome_of_finishes inTime
  case timedOut => exact fun k cut => attemptOutcome_of_cut cut
  case ending => exact ending
  case receipt => exact fun receipt told => ending.receipt few rfl told
  case failure => exact fun cause told own shape => ending.failure few rfl told own shape

/-- Every request to send an email ends in one of the ways of the table, whatever the
state, the settings, the answers of the transport and the faults of the store.  The jitter
of a setting answers every delay; requests whose pauses are drawn at random, and which may
break off, come to the same table by `submit_outcome`, and never break off with the settings
of a service by `requests_answered_of_settings`. -/
theorem send_outcome (setting : Setting) (r : Notification.Request) (s : State) :
    SendOutcome setting r s (send setting r s) where
  invalid := by
    intro invalid
    obtain ⟨why, refused⟩ := draft_of_invalid invalid
    obtain ⟨outcome, state, emails⟩ := send_of_invalid setting s refused
    exact ⟨⟨why, outcome⟩, state, emails⟩
  limited := fun recipient accepts denied => send_of_limited accepts denied
  unwritten := fun recipient e accepts granted fails => send_of_unwritten accepts granted fails
  written := fun recipient store accepts granted writes =>
    delivery_of_written accepts granted writes

/-- A transport that is busy at first. -/
def busyOnce : Setting where
  config := .smtp
  jitter := fun _ delay => delay
  transport := fun _ k => .sleeping 10 (if k = 0 then .error (.transport "busy" false) else .ok ())
  faults := .none
  fresh := 0
  clock := .still 0
  createdAt := ⟨0, 0⟩
  finishedAt := ⟨0, 0⟩

example :
    (send busyOnce ⟨"a@b.co", "s", "b", .welcomeEmail⟩ .initial).emails =
        List.replicate 2 ⟨"a@b.co", "s", "b"⟩ ∧
      (send busyOnce ⟨"a@b.co", "s", "b", .welcomeEmail⟩ .initial).state.store.records.map
        (fun n => (n.status, n.retryCount)) = [(.sent, 1)] := by
  decide +kernel

end Courier.Service
