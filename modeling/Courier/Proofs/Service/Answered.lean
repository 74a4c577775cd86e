/-
# Courier.Proofs.Service.Answered -- what every request ends in

`send` answers every request, since its pauses are adjusted by a jitter that answers every
delay.  A request whose pauses are drawn at random may break off, at a pause that nothing can
be drawn for: its record then stays pending and nobody is answered (`BrokenOff`).
`SubmitOutcome` is the table of `SendOutcome` with that row, and `submit_outcome` says that
every request ends in one of the rows.

No delay is longer than its policy's cap, and one with nothing to draw from lasts `2 ^ 66`
nanoseconds at least.  So with a cap below that no request breaks off, whatever the random
source answers.  The settings of a service never change the cap, which is that of the defaults
for an SMTP server, so this is so of every service set up from them
(`requests_answered_of_settings`).
-/
import Courier.Proofs.Config.Settings
import Courier.Proofs.Retry.Backoff
import Courier.Proofs.Retry.Jitter
import Courier.Proofs.Service.Counted

namespace Courier

set_option autoImplicit false

/-! ## Delays below the cap -/

/-- With a cap of less than `2 ^ 66` nanoseconds there is something to draw from at every delay. -/
theorem Pipeline.not_undrawable_of_capped {ε α : Type} {c : Config}
    (capped : c.policy.maxDelay.nanos < 4 * UInt64.size) (operation : Operation ε α)
    (clock : Readings) (s : State) : ¬ Undrawable c operation clock s := by
  rintro ⟨-, n, -, k, -, empty⟩
  have short : (c.policy.delay k).nanos < 4 * UInt64.size :=
    Nat.lt_of_le_of_lt (c.policy.delay_nanos_le k) capped
  have drawable := Retry.Jitter.drawable_of_lt short
  rw [(Retry.Jitter.drawable_eq_false_iff _).mpr empty] at drawable
  cases drawable

/-- The cap of the delays is no setting. -/
theorem Config.Resilience.capped (r : Resilience) :
    r.pipeline.policy.maxDelay.nanos < 4 * UInt64.size := by
  rw [policy_pipeline r]
  show Pipeline.Config.smtp.policy.maxDelay.nanos < 4 * UInt64.size
  decide

namespace Service

open Mail (DeliveryError)
open Retry (LastAttempt)

variable {x : Submission} {s : State}

/-! ## Requests that break off -/

/-- A request to `recipient` broke off between two attempts. -/
structure BrokenOff (x : Submission) (s : State) (recipient : String) (turn : Turn) : Prop where
  accepted : Accepts x.request recipient
  allowed : allows x.inForce s recipient = true
  /-- Its record was written, and stays as it was. -/
  written : attempt x.setting.faults.create
      (s.store.create (pendingRecord x.inForce x.request recipient)) = .ok turn.state.store
  admitted : ¬ Rejects x.inForce s
  /-- Emails with the content of the record went out, fewer than there would have been. -/
  emails : ∃ n m, 1 ≤ n ∧ n < m ∧
    LastAttempt DeliveryError.isRetryable
      (attemptOutcome x.inForce (emailOf (pendingRecord x.inForce x.request recipient)))
      x.setting.config.policy.attempts m ∧
    turn.emails = List.replicate n (emailOf (pendingRecord x.inForce x.request recipient))
  /-- Nobody is answered. -/
  answer : turn.answer = .error .emptyRange
  drawn : ∃ draws, x.draws = some draws

/-- What becomes of a request, with its pauses drawn at random or not. -/
structure SubmitOutcome (x : Submission) (s : State) (turn : Turn) : Prop where
  /-- The table, with the pauses in force. -/
  table : SendOutcome x.inForce x.request s (send x.inForce x.request s)
  answered : turn.isBroken = false → turn = .ofReport (send x.inForce x.request s)
  broken : turn.isBroken = true → ∃ recipient, BrokenOff x s recipient turn
  /-- Requests break off neither without a random source nor with the settings of a service. -/
  steady : (x.draws = none ∨ ∃ r : Config.Resilience, x.setting.config = r.pipeline) →
    turn.isBroken = false

theorem accepts_of_draft {r : Notification.Request} {d : Draft} (drafted : draft r = .ok d) :
    Accepts r d.recipient ∧
      d = ⟨d.recipient, Sanitize.subject r.subject, Sanitize.body r.body, r.kind⟩ := by
  unfold draft at drafted
  split at drafted
  · rename_i valid
    cases address : Sanitize.email r.recipient with
    | error e => simp [address, Except.map] at drafted
    | ok recipient =>
        rw [address] at drafted
        cases drafted
        exact ⟨⟨valid, address⟩, rfl⟩
  · cases drafted

/-- A request whose record has been written was accepted and granted its admission. -/
theorem accepts_of_pending {setting : Setting} {r : Notification.Request} {p : Pending}
    (pending : pending? setting r s = some p) :
    ∃ recipient, Accepts r recipient ∧ allows setting s recipient = true ∧
      attempt setting.faults.create (s.store.create (pendingRecord setting r recipient)) =
        .ok p.state.store ∧
      p.draft.outgoing = emailOf (pendingRecord setting r recipient) ∧
      p.state.pipeline.breaker = s.pipeline.breaker := by
  unfold pending? at pending
  cases drafted : draft r with
  | error e => simp [drafted] at pending
  | ok d =>
      obtain ⟨accepts, content⟩ := accepts_of_draft drafted
      rw [drafted, content] at pending
      dsimp only at pending
      split at pending
      · rename_i store granted writes
        cases pending
        exact ⟨d.recipient, accepts, granted, writes, rfl, rfl⟩
      · cases pending

theorem exists_brokenOff (broke : (submit x s).isBroken = true) :
    ∃ recipient, BrokenOff x s recipient (submit x s) := by
  have went := submit_went x s
  generalize submit x s = turn at went broke ⊢
  cases went with
  | whole => cases broke
  | broke p pending error answer =>
      have stuck : (x.delivery p).isBroken = true := by
        unfold Pipeline.Turn.isBroken
        rw [answer]
      obtain ⟨positive, m, lastOne, early⟩ := Pipeline.calls_of_broken stuck
      obtain ⟨random, admitted, -⟩ :=
        (Pipeline.isBroken_run_iff x.setting.config p.state.pipeline (x.call p)).mp stuck
      obtain ⟨recipient, accepts, allowed, written, content, breaker⟩ := accepts_of_pending pending
      have lets : ¬ Rejects x.inForce s := by
        intro rejects
        refine admitted ?_
        rw [breaker]
        exact rejects
      refine ⟨recipient, accepts, allowed, written, lets, ?_, ?_, x.pauses_random_iff.mp random⟩
      · rw [← content]
        exact ⟨_, m, positive, early, lastOne, rfl⟩
      · cases error
        rfl

/-! ## Every request -/

theorem isBroken_of_capped (capped : x.setting.config.policy.maxDelay.nanos < 4 * UInt64.size) :
    (submit x s).isBroken = false := by
  cases pending : x.pending? s with
  | none =>
      rw [submit_of_not_pending pending]
      rfl
  | some p =>
      refine Bool.eq_false_iff.mpr fun broke => ?_
      obtain ⟨-, undrawable⟩ := (isBroken_submit_iff pending).mp broke
      exact Pipeline.not_undrawable_of_capped capped _ _ _ undrawable

/-- **Every request ends in one of the rows of the table**, whatever the state, the settings, the
answers of the transport, the faults of the store and the random source: it breaks off, or it has
the answer, the state and the emails of `send` with the pauses in force, for which the table
holds.  It breaks off only where its pauses are drawn at random, and never with the settings of a
service. -/
theorem submit_outcome (x : Submission) (s : State) : SubmitOutcome x s (submit x s) where
  table := send_outcome x.inForce x.request s
  answered whole := submit_of_whole whole
  broken broke := exists_brokenOff broke
  steady := by
    rintro (undrawn | ⟨r, configured⟩)
    · refine Bool.eq_false_iff.mpr fun broke => ?_
      obtain ⟨recipient, off⟩ := exists_brokenOff broke
      obtain ⟨draws, drawn⟩ := off.drawn
      rw [undrawn] at drawn
      cases drawn
    · refine isBroken_of_capped ?_
      rw [configured]
      exact r.capped

/-! ## Sessions -/

/-- **Every request of a session is answered where delays are capped.**  From any state and
whatever the random source answers: no request breaks off, and each has the answer, the state,
the emails and the metrics of `send` with the pauses in force. -/
theorem requests_answered {submissions : List Submission}
    (capped : ∀ x ∈ submissions, x.setting.config.policy.maxDelay.nanos < 4 * UInt64.size) :
    ∀ e ∈ session s submissions, e.turn.isBroken = false ∧
      e.turn = .ofReport (send e.submission.inForce e.submission.request e.before) := by
  induction submissions generalizing s with
  | nil => exact List.forall_mem_nil _
  | cons x rest ih =>
      unfold session
      rw [List.forall_mem_cons]
      have whole : (submit x s).isBroken = false := isBroken_of_capped (capped x List.mem_cons_self)
      exact ⟨⟨whole, submit_of_whole whole⟩,
        ih fun y member => capped y (List.mem_cons_of_mem _ member)⟩

/-- So it is for a service with any settings. -/
theorem requests_answered_of_settings (r : Config.Resilience) {submissions : List Submission}
    (configured : ∀ x ∈ submissions, x.setting.config = r.pipeline) :
    ∀ e ∈ session s submissions, e.turn.isBroken = false ∧
      e.turn = .ofReport (send e.submission.inForce e.submission.request e.before) := by
  refine requests_answered fun x member => ?_
  rw [configured x member]
  exact r.capped

end Service

end Courier
