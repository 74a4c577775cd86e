/-
# Courier.Proofs.Service.Counted -- which emails the service counts

A request whose record has been written is counted once, under the kind of its email and
its status (`Pending.status`): `circuitOpen` if the breaker lets nothing through, `sent` if
the transport took the email in one of the attempts, `failed` otherwise.  Its attempts are
recorded with it.  Requests that end before that are no emails: of these only the limited
ones are counted, under a status of their own.

There are two ways out of it (`Submission.lost`).  An email that was delivered is counted
after its record has been updated, so it is not counted if the store fails then; one that
was not delivered is counted before its update, and counted in any case.  And a request that
breaks off comes to neither.  `emails_counted_once` says what is counted of each request and
that these two are all that is lost, and adds a session up.
-/
import Courier.Proofs.Pipeline.Turn
import Courier.Proofs.Service.Outcome
import Courier.Service.Session

namespace Courier

set_option autoImplicit false

theorem Notification.Kind.name_injective {kind other : Notification.Kind}
    (same : kind.name = other.name) : kind = other := by
  cases kind <;> cases other <;> simp_all [Notification.Kind.name]

theorem Metric.EmailStatus.name_injective {status other : Metric.EmailStatus}
    (same : status.name = other.name) : status = other := by
  cases status <;> cases other <;> simp_all [Metric.EmailStatus.name]

namespace Service

open Mail (DeliveryError)
open Courier.Metric (EmailStatus numbers total)

/-! ## Requests that go on to their delivery -/

/-- What is known of a request whose record has been written: the record stands last. -/
structure Pending.Written (r : Notification.Request) (s : State) (p : Pending)
    (record : Notification) : Prop where
  kind : p.draft.kind = r.kind
  named : record.id = p.id
  absent : s.store.find? record.id = none
  store : p.state.store = ⟨s.store.records ++ [record]⟩

variable {setting : Setting} {r : Notification.Request} {s : State} {p : Pending}

theorem kind_of_draft {d : Draft} (drafted : draft r = .ok d) : d.kind = r.kind := by
  unfold draft at drafted
  split at drafted
  · cases address : Sanitize.email r.recipient with
    | error e => simp [address, Except.map] at drafted
    | ok recipient =>
        rw [address] at drafted
        cases drafted
        rfl
  · cases drafted

theorem exists_written (pending : pending? setting r s = some p) :
    ∃ record, p.Written r s record := by
  unfold pending? at pending
  split at pending
  · cases pending
  · rename_i d drafted
    simp only at pending
    split at pending
    · rename_i store granted writes
      obtain ⟨absent, rfl⟩ := create_of_written writes
      cases pending
      exact ⟨_, kind_of_draft drafted, rfl, absent, rfl⟩
    · cases pending

/-- Such a request is its admission and its delivery. -/
theorem send_of_pending (pending : pending? setting r s = some p) :
    send setting r s =
      { deliver setting p.draft p.id p.state with
        metrics := .decision true :: (deliver setting p.draft p.id p.state).metrics } := by
  unfold pending? at pending
  unfold send
  cases drafted : draft r with
  | error e => simp [drafted] at pending
  | ok d =>
      simp only [drafted] at pending ⊢
      have metrics := Pipeline.grant_metrics setting.config d.recipient setting.clock.asked s.pipeline
      generalize Pipeline.grant setting.config d.recipient setting.clock.asked s.pipeline =
        admission at pending metrics ⊢
      obtain ⟨allowed, pipeline, decision⟩ := admission
      dsimp only at metrics
      subst metrics
      split at pending
      · rename_i store granted writes
        cases granted
        cases pending
        simp only [if_true, writes]
        rfl
      · cases pending

/-- Any other request hands no email over; it is one decision of the limiter at most, and
is counted only if that was a denial. -/
theorem send_of_not_pending (ended : pending? setting r s = none) :
    (send setting r s).emails = [] ∧
      ((send setting r s).metrics = [] ∨ (send setting r s).metrics = [.decision true] ∨
        ∃ kind, (send setting r s).metrics = [.decision false, .email kind .rateLimited]) := by
  unfold pending? at ended
  unfold send
  cases drafted : draft r with
  | error e => exact ⟨rfl, .inl rfl⟩
  | ok d =>
      simp only [drafted] at ended ⊢
      have metrics := Pipeline.grant_metrics setting.config d.recipient setting.clock.asked s.pipeline
      generalize Pipeline.grant setting.config d.recipient setting.clock.asked s.pipeline =
        admission at ended metrics ⊢
      obtain ⟨allowed, pipeline, decision⟩ := admission
      dsimp only at metrics
      subst metrics
      cases allowed with
      | false => exact ⟨rfl, .inr (.inr ⟨d.kind, rfl⟩)⟩
      | true =>
          simp only [if_true]
          cases writes : attempt setting.faults.create (s.store.create (Notification.fresh
              (Notification.idOf setting.fresh) d.recipient d.subject d.body d.kind
              setting.createdAt)) with
          | error e => exact ⟨rfl, .inr (.inl rfl)⟩
          | ok store => simp [writes] at ended

/-! ## The delivery -/

/-- What becomes of an email that has been handed over `n` times. -/
def Pending.status (setting : Setting) (p : Pending) (n : Nat) : EmailStatus :=
  if (p.state.pipeline.breaker.enter setting.config.circuit setting.clock.started).permit.isNone then
    .circuitOpen
  else if (List.range n).any fun k => (attemptOutcome setting p.draft.outgoing k).isOk then .sent
  else .failed

/-- A delivered email whose record cannot be marked so. -/
def Pending.unmarked (setting : Setting) (p : Pending) (n : Nat) : Bool :=
  p.status setting n == .sent && setting.faults.sent.isSome

/-- What the service counts of an email, and of its `n` attempts. -/
def told (kind : Notification.Kind) (status : EmailStatus) (n : Nat) : List Metric :=
  .email kind status :: if n = 0 then [] else [.emailAttempts (status == .sent) n]

theorem finishSent_metrics (setting : Setting) (d : Draft) {record : Notification} {store : Store}
    (absent : store.find? record.id = none) (n : Nat) :
    (finishSent setting d record.id n ⟨store.records ++ [record]⟩).2.2 =
      if setting.faults.sent.isSome then [] else [.email d.kind .sent, .emailAttempts true n] := by
  have marked : (⟨store.records ++ [record]⟩ : Store).markSent record.id setting.finishedAt
      (retries n) = .ok ⟨store.records ++ [record.markSent setting.finishedAt (retries n)]⟩ :=
    Store.update_concat absent _
  unfold finishSent
  rw [marked]
  cases setting.faults.sent <;> rfl

/-- A failure is counted whether or not it can be written down. -/
theorem finishFailed_metrics (setting : Setting) (d : Draft) (id : String)
    (reason : Pipeline.Failure DeliveryError) (store : Store) :
    (finishFailed setting d id reason store).2.2 = .email d.kind (failure reason).2 ::
      if reason.attempts = 0 then [] else [.emailAttempts false reason.attempts] := by
  unfold finishFailed
  simp only
  split <;> rfl

/-- A delivery records what the layers do, and then its email, unless that is lost. -/
theorem deliver_metrics (setting : Setting) {record : Notification}
    (written : p.Written r s record) :
    ∃ n, (deliver setting p.draft p.id p.state).emails = List.replicate n p.draft.outgoing ∧
      (deliver setting p.draft p.id p.state).metrics =
        (Pipeline.run setting.config setting.jitter (operation setting p.draft) setting.clock
          p.state.pipeline).metrics ++
        if p.unmarked setting n then [] else told r.kind (p.status setting n) n := by
  have sent := finishSent_metrics setting p.draft written.absent
  have failed := finishFailed_metrics setting p.draft p.id
  rw [written.named, ← written.store, written.kind] at sent
  rw [written.kind] at failed
  have emails : (deliver setting p.draft p.id p.state).emails =
      List.replicate (Pipeline.run setting.config setting.jitter (operation setting p.draft)
        setting.clock p.state.pipeline).calls p.draft.outgoing := rfl
  unfold Pending.unmarked Pending.status
  cases admission : (p.state.pipeline.breaker.enter setting.config.circuit
      setting.clock.started).permit with
  | none =>
      obtain ⟨calls, outcome⟩ := Pipeline.run_of_rejected setting.config setting.jitter
        (operation setting p.draft) admission
      rw [calls] at emails
      refine ⟨0, emails, ?_⟩
      unfold deliver
      simp only [outcome, failed]
      rfl
  | some permit =>
      obtain ⟨n, lastOne, calls, outcome⟩ := Pipeline.run_of_admitted setting.config setting.jitter
        (operation setting p.draft) admission
      have any := lastOne.any_isOk
      have positive : n ≠ 0 := Nat.ne_of_gt lastOne.positive
      have same : (operation setting p.draft).outcome setting.config =
          attemptOutcome setting p.draft.outgoing := rfl
      rw [same] at outcome any
      rw [calls] at emails
      refine ⟨n, emails, ?_⟩
      unfold deliver told
      simp only [outcome, any]
      cases last : attemptOutcome setting p.draft.outgoing (n - 1) with
      | ok value =>
          simp only [Pipeline.answer, sent]
          cases setting.faults.sent <;> simp [Except.isOk, Except.toBool, positive]
      | error error =>
          simp only [Pipeline.answer, failed]
          simp [Except.isOk, Except.toBool, failure, Pipeline.Failure.attempts, positive]

/-! ## What is counted of an email -/

/-- Metrics of one email under this kind and status, and of `n` attempts. -/
structure CountedOnce (kind : Notification.Kind) (status : EmailStatus) (n : Nat)
    (metrics : List Metric) : Prop where
  once : total .emails [] metrics = 1
  under : ∀ (other : Notification.Kind) (outcome : EmailStatus),
    total .emails [("status", outcome.name), ("type", other.name)] metrics =
      if other = kind ∧ outcome = status then 1 else 0
  attempts : total .emailAttempts [] metrics = n

/-- No metric of an email. -/
def Quiet (metrics : List Metric) : Prop :=
  ∀ f ∈ [Metric.Family.emails, .emailAttempts], ∀ labels, numbers f labels metrics = []

theorem quiet_nil : Quiet [] := fun _ _ _ => rfl

theorem Quiet.append {metrics more : List Metric} (quiet : Quiet metrics) (later : Quiet more) :
    Quiet (metrics ++ more) := by
  intro f member labels
  rw [Metric.numbers_append, quiet f member, later f member]
  rfl

theorem quiet_decision (allowed : Bool) : Quiet [.decision allowed] := by
  intro f member labels
  refine Metric.numbers_of_other f labels fun m recorded => ?_
  cases List.mem_singleton.mp recorded
  have elsewhere : ∀ f ∈ [Metric.Family.emails, .emailAttempts],
      Metric.Family.decisions.name ≠ f.name := by decide
  exact elsewhere f member

/-- What the layers of a pipeline record is nothing of an email. -/
theorem quiet_of_layers {metrics : List Metric}
    (layers : ∀ m ∈ metrics, m.observation.family ∈ Pipeline.callFamilies) : Quiet metrics := by
  intro f member labels
  refine Metric.numbers_of_other f labels fun m recorded => ?_
  have elsewhere : ∀ f ∈ [Metric.Family.emails, .emailAttempts], ∀ layer ∈ Pipeline.callFamilies,
      layer.name ≠ f.name := by decide
  exact elsewhere f member _ (layers m recorded)

theorem total_email (kind other : Notification.Kind) (status outcome : EmailStatus) :
    total .emails [("status", outcome.name), ("type", other.name)] [.email kind status] =
      if other = kind ∧ outcome = status then 1 else 0 := by
  have found : Metric.Observation.isOf .emails
      [("status", outcome.name), ("type", other.name)] (Metric.email kind status).observation =
        decide (other = kind ∧ outcome = status) := by
    have kinds : other.name = kind.name ↔ other = kind :=
      ⟨Notification.Kind.name_injective, congrArg _⟩
    have statuses : outcome.name = status.name ↔ outcome = status :=
      ⟨Metric.EmailStatus.name_injective, congrArg _⟩
    simp [Metric.Observation.isOf, Metric.observation, kinds, statuses, Bool.and_comm]
  unfold total numbers
  simp only [List.map_singleton, List.filter_singleton, found]
  by_cases same : other = kind ∧ outcome = status
  · simp [same, Metric.observation]
  · simp [same]

theorem countedOnce_told (kind : Notification.Kind) (status : EmailStatus) (n : Nat) :
    CountedOnce kind status n (told kind status n) := by
  have email : ∀ labels, total .emails labels (told kind status n) =
      total .emails labels [.email kind status] := by
    intro labels
    unfold told
    split <;> rfl
  constructor
  case once => rw [email]; rfl
  case under => intro other outcome; rw [email, total_email]
  case attempts =>
    unfold told
    split
    · rename_i zero
      rw [zero]
      rfl
    · rfl

theorem CountedOnce.after {kind : Notification.Kind} {status : EmailStatus} {n : Nat}
    {before metrics : List Metric} (quiet : Quiet before)
    (counted : CountedOnce kind status n metrics) :
    CountedOnce kind status n (before ++ metrics) := by
  have nothing : ∀ f ∈ [Metric.Family.emails, .emailAttempts], ∀ labels,
      total f labels before = 0 := by
    intro f member labels
    unfold total
    rw [quiet f member labels]
    rfl
  have emails := nothing .emails (.head _)
  have attempts := nothing .emailAttempts (.tail _ (.head _))
  constructor
  case once => rw [Metric.total_append, emails, counted.once]
  case under =>
    intro other outcome
    rw [Metric.total_append, emails, counted.under, Nat.zero_add]
  case attempts => rw [Metric.total_append, attempts, counted.attempts, Nat.zero_add]

/-! ## Requests -/

variable {x : Submission} {now : State}

/-- An email that is not counted: its request broke off, or it was delivered and its record
cannot be marked so. -/
def Submission.lost (x : Submission) (p : Pending) (turn : Turn) : Bool :=
  turn.isBroken || p.unmarked x.setting turn.emails.length

/-- The delivery of a request with a record, as far as the layers go. -/
def Submission.delivery (x : Submission) (p : Pending) : Pipeline.Turn DeliveryError Unit :=
  Pipeline.step x.setting.config p.state.pipeline (.run (x.call p))

/-- The ways a request can go. -/
inductive Went (x : Submission) (now : State) : Turn → Prop where
  | whole : Went x now (.ofReport (send x.inForce x.request now))
  | broke (p : Pending) (pending : x.pending? now = some p) (error : Retry.Jitter.DrawError)
      (answer : (x.delivery p).answer = .broken error) :
      Went x now
        { answer := .error error
          state := ⟨(x.delivery p).state, p.state.store⟩
          emails := List.replicate (x.delivery p).calls p.draft.outgoing
          metrics := .decision true :: (x.delivery p).metrics }

/-- A request ends as `send` does, or breaks off in its delivery. -/
theorem submit_went (x : Submission) (now : State) : Went x now (submit x now) := by
  unfold submit
  dsimp only
  split
  · exact .whole
  · rename_i p pending
    split
    · rename_i error answer
      exact .broke p pending error answer
    · exact .whole

theorem isBroken_submit (pending : x.pending? now = some p) :
    (submit x now).isBroken =
      (Pipeline.step x.setting.config p.state.pipeline (.run (x.call p))).isBroken := by
  unfold submit Pipeline.Turn.isBroken
  simp only [pending]
  cases (Pipeline.step x.setting.config p.state.pipeline (.run (x.call p))).answer with
  | broken error => rfl
  | ended | admitted | left | swept => rfl

/-- A request that breaks off counts nothing. -/
theorem submit_of_broken (broke : (submit x now).isBroken = true) :
    Quiet (submit x now).metrics := by
  have went := submit_went x now
  generalize submit x now = turn at went broke ⊢
  cases went with
  | whole => cases broke
  | broke p pending error answer =>
      have became := Pipeline.callTurn_run x.setting.config p.state.pipeline (x.call p)
      exact (quiet_decision true).append (quiet_of_layers (Pipeline.family_mem_of_callTurn became))

/-- One that does not has the answer, the emails and the metrics of its delivery. -/
theorem submit_of_whole (whole : (submit x now).isBroken = false) :
    submit x now = .ofReport (send x.inForce x.request now) := by
  have went := submit_went x now
  generalize submit x now = turn at went whole ⊢
  cases went with
  | whole => rfl
  | broke => cases whole

/-- What is counted of a request with a record. -/
theorem submit_counted (pending : x.pending? now = some p) :
    if x.lost p (submit x now) then Quiet (submit x now).metrics
    else CountedOnce x.request.kind (p.status x.setting (submit x now).emails.length)
      (submit x now).emails.length (submit x now).metrics := by
  cases broke : (submit x now).isBroken with
  | true =>
      have lost : x.lost p (submit x now) = true := by rw [Submission.lost, broke, Bool.true_or]
      rw [if_pos lost]
      exact submit_of_broken broke
  | false =>
      obtain ⟨record, written⟩ := exists_written pending
      obtain ⟨n, emails, metrics⟩ := deliver_metrics x.inForce written
      have became := Pipeline.callTurn_ofReport x.setting.config p.state.pipeline (x.call p)
      have layers := quiet_of_layers (Pipeline.family_mem_of_callTurn became)
      have quiet := (quiet_decision true).append layers
      have length : (submit x now).emails.length = n := by
        rw [submit_of_whole broke, send_of_pending pending]
        exact (congrArg List.length emails).trans List.length_replicate
      have recorded : (submit x now).metrics = ([.decision true] ++
          (Pipeline.Turn.ofReport ((x.call p).report x.setting.config p.state.pipeline)).metrics) ++
            if p.unmarked x.setting n then []
            else told x.request.kind (p.status x.setting n) n := by
        rw [submit_of_whole broke, send_of_pending pending]
        exact congrArg (Metric.decision true :: ·) metrics
      have lost : x.lost p (submit x now) = p.unmarked x.setting n := by
        rw [Submission.lost, broke, length, Bool.false_or]
      rw [lost, recorded, length]
      cases p.unmarked x.setting n with
      | true => exact quiet.append quiet_nil
      | false => exact (countedOnce_told _ _ n).after quiet

theorem Submission.pauses_random_iff (x : Submission) :
    (∃ draws, x.pauses = .random draws) ↔ ∃ draws, x.draws = some draws := by
  unfold Submission.pauses
  cases x.draws <;> simp

/-- A request breaks off just when its pauses are drawn at random and there is nothing to
draw one from. -/
theorem isBroken_submit_iff (pending : x.pending? now = some p) :
    (submit x now).isBroken = true ↔ (∃ draws, x.draws = some draws) ∧
      Pipeline.Undrawable x.setting.config (operation x.setting p.draft) x.setting.clock
        p.state.pipeline := by
  rw [isBroken_submit pending, Pipeline.isBroken_run_iff, ← x.pauses_random_iff]
  rfl

theorem submit_of_not_pending (ended : x.pending? now = none) :
    submit x now = .ofReport (send x.inForce x.request now) := by
  have went := submit_went x now
  generalize submit x now = turn at went ⊢
  cases went with
  | whole => rfl
  | broke p pending => cases ended.symm.trans pending

/-! ## Sessions -/

/-- What a request is counted as, if it is counted as an email. -/
def Entry.counted? (e : Entry) : Option (Notification.Kind × EmailStatus) :=
  match e.submission.pending? e.before with
  | none => none
  | some p =>
      if e.submission.lost p e.turn then none
      else some (e.submission.request.kind, p.status e.submission.setting e.turn.emails.length)

/-- The metrics of a session, oldest first. -/
def recorded (entries : List Entry) : List Metric := entries.flatMap (·.turn.metrics)

/-- The emails handed to the transport in a session. -/
def handed (entries : List Entry) : Nat :=
  entries.foldr (fun e rest => e.turn.emails.length + rest) 0

/-- What one request adds to the emails and to their attempts. -/
theorem totals_submit (x : Submission) (now : State) :
    (∀ kind status, status ≠ EmailStatus.rateLimited →
      total .emails [("status", status.name), ("type", kind.name)] (submit x now).metrics =
        if Entry.counted? ⟨x, now, submit x now⟩ = some (kind, status) then 1 else 0) ∧
    total .emailAttempts [] (submit x now).metrics =
      if (Entry.counted? ⟨x, now, submit x now⟩).isSome then (submit x now).emails.length
      else 0 := by
  cases pending : x.pending? now with
  | none =>
      have uncounted : Entry.counted? ⟨x, now, submit x now⟩ = none := by
        simp only [Entry.counted?, pending]
      obtain ⟨-, shape⟩ := send_of_not_pending pending
      rw [uncounted, submit_of_not_pending pending]
      show (∀ kind status, status ≠ EmailStatus.rateLimited →
        total .emails _ (send x.inForce x.request now).metrics = 0) ∧
          total .emailAttempts [] (send x.inForce x.request now).metrics = 0
      rcases shape with nothing | granted | ⟨kind, limited⟩
      · rw [nothing]
        exact ⟨fun _ _ _ => rfl, rfl⟩
      · rw [granted]
        exact ⟨fun _ _ _ => rfl, rfl⟩
      · rw [limited]
        refine ⟨fun other status own => ?_, rfl⟩
        have email := total_email kind other .rateLimited status
        rw [if_neg fun same => own same.2] at email
        exact email
  | some p =>
      have counted := submit_counted pending
      cases lost : x.lost p (submit x now) with
      | true =>
          have uncounted : Entry.counted? ⟨x, now, submit x now⟩ = none := by
            simp only [Entry.counted?, pending, lost, if_true]
          rw [if_pos lost] at counted
          rw [uncounted]
          unfold total
          rw [counted .emailAttempts (.tail _ (.head _))]
          exact ⟨fun _ _ _ => by rw [counted .emails (.head _)]; rfl, rfl⟩
      | false =>
          have found : Entry.counted? ⟨x, now, submit x now⟩ =
              some (x.request.kind, p.status x.setting (submit x now).emails.length) := by
            simp only [Entry.counted?, pending, lost, Bool.false_eq_true, if_false]
          rw [if_neg (Bool.eq_false_iff.mp lost)] at counted
          rw [found]
          refine ⟨fun kind status _ => ?_, counted.attempts⟩
          rw [counted.under]
          simp only [Option.some.injEq, Prod.mk.injEq, eq_comm]

/-- **Every processed email is counted once, but for those that are lost.**  In any state, a
request whose record has been written adds one to the emails, under its kind and its status
and under no other, and to the attempts as many as emails went out; unless it broke off, or
its email was delivered and the store cannot mark the record: then it adds to neither.  It
breaks off just when its pauses are drawn at random and there is nothing to draw from.

So over any session the emails under a kind and a status are the requests that are not lost
and are of this kind and status, and the attempts are the emails that went out for these. -/
theorem emails_counted_once (s : State) (submissions : List Submission) :
    (∀ (x : Submission) (now : State) (p : Pending), x.pending? now = some p →
      (x.lost p (submit x now) = false →
        CountedOnce x.request.kind (p.status x.setting (submit x now).emails.length)
          (submit x now).emails.length (submit x now).metrics) ∧
      (x.lost p (submit x now) = true → Quiet (submit x now).metrics) ∧
      ((submit x now).isBroken = true ↔ (∃ draws, x.draws = some draws) ∧
        Pipeline.Undrawable x.setting.config (operation x.setting p.draft) x.setting.clock
          p.state.pipeline)) ∧
    (∀ kind status, status ≠ EmailStatus.rateLimited →
      total .emails [("status", status.name), ("type", kind.name)]
          (recorded (session s submissions)) =
        (session s submissions).countP fun e => decide (e.counted? = some (kind, status))) ∧
    total .emailAttempts [] (recorded (session s submissions)) =
      handed ((session s submissions).filter (·.counted?.isSome)) := by
  refine ⟨?_, ?_⟩
  · intro x now p pending
    have counted := submit_counted pending
    refine ⟨fun kept => ?_, fun lost => ?_, isBroken_submit_iff pending⟩
    · rwa [if_neg (Bool.eq_false_iff.mp kept)] at counted
    · rwa [if_pos lost] at counted
  · induction submissions generalizing s with
    | nil => exact ⟨fun _ _ _ => rfl, rfl⟩
    | cons x rest ih =>
        obtain ⟨emails, attempts⟩ := totals_submit x s
        obtain ⟨later, laterAttempts⟩ := ih (submit x s).state
        unfold session
        refine ⟨fun kind status own => ?_, ?_⟩
        · show total .emails _ ((submit x s).metrics ++ recorded (session (submit x s).state rest)) = _
          rw [Metric.total_append, emails kind status own, later kind status own,
            List.countP_cons, Nat.add_comm]
          simp only [decide_eq_true_eq]
        · show total .emailAttempts _
            ((submit x s).metrics ++ recorded (session (submit x s).state rest)) = _
          rw [Metric.total_append, attempts, laterAttempts, List.filter_cons]
          cases (Entry.counted? ⟨x, s, submit x s⟩).isSome with
          | true => rfl
          | false => exact Nat.zero_add _

/-- An email that goes out at the second attempt, under a fresh id and with faults of the
store. -/
def welcome (fresh : Nat) (faults : Faults) : Submission where
  request := ⟨"a@b.co", "s", "b", .welcomeEmail⟩
  setting := { busyOnce with fresh := fresh, faults := faults }
  draws := none

/-- A store that cannot mark a record as sent. -/
def cannotMark : Faults := { Faults.none with sent := some (.database "db down") }

/-- Two emails that go out, of which the first cannot be marked: four attempts, and one email
with two of them. -/
theorem emails_counted_once_unmarked :
    let entries := session .initial [welcome 0 cannotMark, welcome 1 .none]
    entries.map (·.turn.emails.length) = [2, 2] ∧
      total .emails [("status", "sent"), ("type", "welcome_email")] (recorded entries) = 1 ∧
      total .emailAttempts [] (recorded entries) = 2 ∧
      Quiet (submit (welcome 0 cannotMark) .initial).metrics := by
  intro entries
  obtain ⟨each, emails, attempts⟩ :=
    emails_counted_once .initial [welcome 0 cannotMark, welcome 1 .none]
  have sentOnce := emails .welcomeEmail .sent (by decide)
  have one : entries.countP (fun e => decide (e.counted? = some (.welcomeEmail, .sent))) = 1 := by
    decide +kernel
  have two : handed (entries.filter (·.counted?.isSome)) = 2 := by decide +kernel
  obtain ⟨p, pending, lost⟩ : ∃ p, (welcome 0 cannotMark).pending? .initial = some p ∧
      (welcome 0 cannotMark).lost p (submit (welcome 0 cannotMark) .initial) = true := by
    have found : ((welcome 0 cannotMark).pending? .initial).any
        (fun p => (welcome 0 cannotMark).lost p (submit (welcome 0 cannotMark) .initial)) =
          true := by
      decide +kernel
    exact (Option.any_eq_true _ _).mp found
  exact ⟨by decide +kernel, sentOnce.trans one, attempts.trans two, (each _ _ p pending).2.1 lost⟩

end Service

end Courier
