/-
# Courier.Proofs.Store.Codec -- records as rows of a server, and back

A record goes to the server as the values of a statement's parameters, by their places, and
comes back as fields by the names of columns.  `Row.tuple` is where the two meet: the row a
server keeps for a `Row`.  An insert puts it there (`assign_insert`), an update changes it
as the row is changed (`assign_setStatus` and its companions), and reading it by names gives
the row back (`read_fields`).

So a record reads back as it was written but for two things (`stored_record_reads_back`):
moments are cut to microseconds, and a number of retries from 2 ^ 31 on, which is stored as
a negative one, comes back as zero.
-/
import Courier.Store.Connection
import Courier.Store.Server

namespace Courier

set_option autoImplicit false

/-! ## Values -/

/-- A whole number of microseconds is kept. -/
@[simp] theorem Timestamp.microsSince2000_ofMicrosSince2000 (micros : Int) :
    (Timestamp.ofMicrosSince2000 micros).microsSince2000 = micros := by
  have remainder : 0 ≤ micros - micros.fdiv 1000000 * 1000000 := by
    have division := Int.mul_fdiv_add_fmod micros 1000000
    have rest := Int.fmod_nonneg_of_pos micros (show (0 : Int) < 1000000 by decide)
    omega
  have nanos : (946684800 + micros.fdiv 1000000 - 946684800) * 1000000000 +
      ((micros - micros.fdiv 1000000 * 1000000).toNat * 1000 : Nat) = micros * 1000 := by
    omega
  unfold ofMicrosSince2000 microsSince2000
  simp only [nanos]
  exact Int.mul_tdiv_cancel micros (by decide)

@[simp] theorem Notification.Status.ofName?_name (status : Status) :
    Status.ofName? status.name = some status := by
  cases status <;> decide

@[simp] theorem Notification.Kind.ofName?_name (kind : Kind) :
    Kind.ofName? kind.name = some kind := by
  cases kind <;> decide

namespace Store

/-- Numbers below 2 ^ 31 keep their sign. -/
@[simp] theorem unsigned_signed (n : UInt32) :
    unsigned (signed n) = if n.toNat < 0x80000000 then n else 0 := by
  have bounded : n.toNat < 0x100000000 := n.toNat_lt
  unfold unsigned signed
  by_cases small : n.toNat < 0x80000000
  · simp [small]
  · have negative : (n.toNat : Int) - 0x100000000 ≤ 0 := by omega
    rw [if_neg small, if_neg small, Int.toNat_of_nonpos negative]
    rfl

theorem signed_bounds (n : UInt32) : -0x80000000 ≤ signed n ∧ signed n < 0x80000000 := by
  have bounded : n.toNat < 0x100000000 := n.toNat_lt
  unfold signed
  split <;> omega

/-! ## Statements -/

/-- The texts of statements are those of their queries. -/
theorem sql_statement (q : Query) : q.statement.sql = q.sql := by
  cases q <;> rfl

/-- The table is declared with these columns. -/
theorem createNotifications_declares :
    Migration.createNotifications.statements.head? =
      some ("CREATE TABLE IF NOT EXISTS notifications ( " ++
        ", ".intercalate (Column.all.map fun c => c.name ++ " " ++ c.declaration) ++ " )") := by
  decide +kernel

/-- The columns a statement is about. -/
def Statement.columns : Statement → List Column
  | .insert columns => columns
  | .select columns _ => columns
  | .update columns _ => columns
  | .one => []

/-- A row with what the query of an operation writes into it. -/
def Tuple.written (row : Tuple) (operation : Operation) : Tuple :=
  row.assign (Query.ofOperation operation).statement.columns (Query.ofOperation operation).parameters

/-- The record in a row whose fields are asked for by their names. -/
def Tuple.record? (row : Tuple) : Option (Except ServiceError Notification) :=
  (Row.read (row.fields (Query.select "").statement.columns)).map Row.notification

/-! ## Rows of the server -/

/-- A row as the server keeps it. -/
def Row.tuple (r : Row) : Tuple
  | .id => .text r.id
  | .recipient => .text r.recipient
  | .subject => .text r.subject
  | .body => .text r.body
  | .status => .text r.status
  | .kind => .text r.kind
  | .retryCount => .integer r.retryCount
  | .createdAt => .moment r.createdAt
  | .sentAt => r.sentAt.elim .null .moment
  | .error => r.error.elim .null .text

section Tuple

variable (r : Row) (base : Tuple)

theorem assign_insert :
    base.assign (Query.insert r).statement.columns (Query.insert r).parameters = r.tuple := by
  funext column
  cases column <;> rfl

theorem assign_setStatus (status id : String) :
    r.tuple.assign (Query.setStatus status id).statement.columns
        (Query.setStatus status id).parameters =
      Row.tuple { r with status := status } := by
  funext column
  cases column <;> rfl

theorem assign_setSent (status : String) (sentAt retries : Int) (id : String) :
    r.tuple.assign (Query.setSent status sentAt retries id).statement.columns
        (Query.setSent status sentAt retries id).parameters =
      Row.tuple { r with status := status, sentAt := some sentAt, retryCount := retries } := by
  funext column
  cases column <;> rfl

theorem assign_setFailed (status error : String) (retries : Int) (id : String) :
    r.tuple.assign (Query.setFailed status error retries id).statement.columns
        (Query.setFailed status error retries id).parameters =
      Row.tuple { r with status := status, error := some error, retryCount := retries } := by
  funext column
  cases column <;> rfl

/-- Reading a row by the names of its columns gives it back. -/
@[simp] theorem read_fields : Row.read (r.tuple.fields Column.all) = some r := by
  obtain ⟨id, recipient, subject, body, status, kind, retryCount, createdAt, sentAt, error⟩ := r
  cases sentAt <;> cases error <;> rfl

end Tuple

/-! ## Records -/

/-- A record as it comes back from a row: moments cut to microseconds, and no retries if
they were too many. -/
structure ReadsBack (n m : Notification) : Prop where
  id : m.id = n.id
  recipient : m.recipient = n.recipient
  subject : m.subject = n.subject
  body : m.body = n.body
  status : m.status = n.status
  kind : m.kind = n.kind
  error : m.error = n.error
  sent : m.sentAt.isSome = n.sentAt.isSome
  retries : m.retryCount = if n.retryCount.toNat < 0x80000000 then n.retryCount else 0
  createdAt : m.createdAt.microsSince2000 = n.createdAt.microsSince2000
  sentAt : m.sentAt.map Timestamp.microsSince2000 = n.sentAt.map Timestamp.microsSince2000

theorem notification_ofNotification (n : Notification) :
    ∃ m, (Row.ofNotification n).notification = .ok m ∧ ReadsBack n m := by
  have read : (Row.ofNotification n).notification = .ok
      { n with
        retryCount := if n.retryCount.toNat < 0x80000000 then n.retryCount else 0
        createdAt := .ofMicrosSince2000 n.createdAt.microsSince2000
        sentAt := n.sentAt.map fun t => .ofMicrosSince2000 t.microsSince2000 } := by
    simp [Row.notification, Row.ofNotification, Function.comp_def]
  refine ⟨_, read, ?_⟩
  constructor <;> simp [Function.comp_def]

theorem record?_tuple (n : Notification) :
    ∃ m, (Row.ofNotification n).tuple.record? = some (.ok m) ∧ ReadsBack n m := by
  obtain ⟨m, read, back⟩ := notification_ofNotification n
  have record : (Row.ofNotification n).tuple.record? = some (.ok m) := by
    rw [← read]
    exact congrArg (Option.map Row.notification) (read_fields _)
  exact ⟨m, record, back⟩

theorem written_create (n : Notification) (base : Tuple) :
    base.written (.create n) = (Row.ofNotification n).tuple := assign_insert _ _

theorem written_markSent (n : Notification) (id : String) (sentAt : Timestamp) (retries : UInt32) :
    (Row.ofNotification n).tuple.written (.markSent id sentAt retries) =
      (Row.ofNotification (n.markSent sentAt retries)).tuple := assign_setSent _ _ _ _ _

theorem written_markFailed (n : Notification) (id error : String) (retries : UInt32) :
    (Row.ofNotification n).tuple.written (.markFailed id error retries) =
      (Row.ofNotification (n.markFailed error retries)).tuple := assign_setFailed _ _ _ _ _

theorem written_setStatus (n : Notification) (id : String) (status : Notification.Status) :
    (Row.ofNotification n).tuple.written (.setStatus id status) =
      (Row.ofNotification { n with status := status }).tuple := assign_setStatus _ _ _

/-- **A record reads back from its row**, whether it was inserted or updated afterwards: every
field is the one that was written, moments to the microsecond, except that the number of
retries is kept only below 2 ^ 31 and otherwise comes back as zero. -/
theorem stored_record_reads_back (n : Notification) (base : Tuple) :
    let inserted := base.written (.create n)
    (∃ m, inserted.record? = some (.ok m) ∧ ReadsBack n m) ∧
    (∀ sentAt retries, ∃ m,
      (inserted.written (.markSent n.id sentAt retries)).record? = some (.ok m) ∧
        ReadsBack (n.markSent sentAt retries) m) ∧
    (∀ error retries, ∃ m,
      (inserted.written (.markFailed n.id error retries)).record? = some (.ok m) ∧
        ReadsBack (n.markFailed error retries) m) ∧
    (∀ status, ∃ m,
      (inserted.written (.setStatus n.id status)).record? = some (.ok m) ∧
        ReadsBack { n with status := status } m) := by
  intro inserted
  have row : inserted = (Row.ofNotification n).tuple := written_create n base
  rw [row]
  refine ⟨record?_tuple n, fun sentAt retries => ?_, fun error retries => ?_, fun status => ?_⟩
  · rw [written_markSent]
    exact record?_tuple _
  · rw [written_markFailed]
    exact record?_tuple _
  · rw [written_setStatus]
    exact record?_tuple _

end Store

end Courier
