/-
# Courier.Store.Server -- a database with its server

A server keeps rows with a value in every column.  It is not part of the program, so that
all that is said of a `Server` is what it is relied on for: `Server.Executes`, in which
statements mean what PostgreSQL documents.  A statement is within the server's limits
(`admits`) or it may be refused; the order of rows, the words of an error and the server's
clock are its own.

What comes back is read by the names of columns (`Row.read`), and only where rows were asked
for (`received`).  A `Remote` is a database behind its breaker together with what its server
keeps; `Remote.step` performs an operation on it, with a server that answers in time.
-/
import Courier.Store.Database
import Courier.Store.Statement
import Courier.Text.Utf8

namespace Courier.Store

set_option autoImplicit false

/-! ## Servers -/

/-- A row as a server keeps it. -/
abbrev Tuple := Column → Value

namespace Tuple

/-- The row with the first value in the first of the columns, and so on. -/
def assign (row : Tuple) (columns : List Column) (values : List Value) : Tuple :=
  fun column => ((columns.zip values).lookup column).getD (row column)

/-- The values of columns by their names. -/
def fields (row : Tuple) (columns : List Column) : List (String × Value) :=
  columns.map fun column => (column.name, row column)

/-- Whether a row has a key; nothing is equal to no value at all. -/
def hasKey (row : Tuple) (key : Column) (value : Option Value) : Bool :=
  value.any fun v => v != .null && row key == v

end Tuple

/-- How many bytes of text there are in a value. -/
def Value.size : Value → Nat
  | .text s => Text.Utf8.byteLength s.toList
  | _ => 0

/-- How many bytes of text there are in all the values together. -/
def Value.total (values : List Value) : Nat :=
  values.foldr (fun value bytes => value.size + bytes) 0

/-- What a server sends back: rows with the names of their columns, and how many were
touched. -/
structure ResultSet where
  rows : List (List (String × Value))
  affected : Nat

/-- A server with the table of notifications. -/
structure Server where
  /-- All that the server keeps. -/
  State : Type
  /-- The rows of the table, in whichever order. -/
  rows : State → List Tuple
  /-- What it answers to a statement with parameters, and what it keeps then. -/
  execute : State → Statement → List Value → Except Fault ResultSet × State
  /-- Whether it has room for what a statement says: a message, a field and a row of an index
  have a size they may not exceed. -/
  admits : Statement → List Value → Bool

namespace Server

variable (server : Server)

/-- A statement is executed: these rows come back, so many are touched, and those are the
rows of the table afterwards. -/
structure Succeeds (state : server.State) (statement : Statement) (values : List Value)
    (found : List (List (String × Value))) (affected : Nat) (rows : List Tuple) : Prop where
  answer : ∃ result, (server.execute state statement values).1 = .ok result ∧
    result.rows.Perm found ∧ result.affected = affected
  rows : (server.rows (server.execute state statement values).2).Perm rows

/-- A statement whose parameters have the types of their columns, within the server's limits. -/
def Ready (statement : Statement) (values : List Value) : Prop :=
  statement.accepts values = true ∧ server.admits statement values = true

/-- The rows a statement with these parameters is about. -/
def matching (state : server.State) (key : Column) (values : List Value) : List Tuple :=
  (server.rows state).filter (·.hasKey key values.getLast?)

/-- What a server is relied on for. -/
structure Executes : Prop where
  /-- Texts of two kilobytes in all are within the limits of every server. -/
  short : ∀ statement values, Value.total values ≤ 2048 →
    server.admits statement values = true
  /-- A statement that fails leaves the table as it was. -/
  atomic : ∀ state statement values fault,
    (server.execute state statement values).1 = .error fault →
      (server.rows (server.execute state statement values).2).Perm (server.rows state)
  /-- A row under a new id is added. -/
  insert : ∀ state (row : Tuple), server.Ready (.insert Column.all) (Column.all.map row) →
    (∀ other ∈ server.rows state, other .id ≠ row .id) →
      server.Succeeds state (.insert Column.all) (Column.all.map row) [] 1
        (server.rows state ++ [row])
  /-- The id is the primary key. -/
  duplicate : ∀ state (row : Tuple), (∃ other ∈ server.rows state, other .id = row .id) →
    ∃ fault, (server.execute state (.insert Column.all) (Column.all.map row)).1 = .error fault
  /-- The rows with a key are sent back. -/
  select : ∀ state columns key values, server.Ready (.select columns key) values →
    server.Succeeds state (.select columns key) values
      ((server.matching state key values).map (·.fields columns))
      (server.matching state key values).length (server.rows state)
  /-- The rows with a key are changed, and counted; an id stays what it is. -/
  update : ∀ state columns key values, server.Ready (.update columns key) values →
    columns.Nodup → .id ∉ columns →
      server.Succeeds state (.update columns key) values []
        (server.matching state key values).length
        ((server.rows state).map fun row =>
          if row.hasKey key values.getLast? then row.assign columns values else row)
  /-- A row with the number one, from no table. -/
  one : ∀ state, server.Succeeds state .one [] [[("?column?", .integer 1)]] 1 (server.rows state)

end Server

/-! ## What comes back -/

section Fields

variable (fields : List (String × Value)) (name : String)

def textField : Option String :=
  match fields.lookup name with
  | some (.text s) => some s
  | _ => none

def integerField : Option Int :=
  match fields.lookup name with
  | some (.integer n) => some n
  | _ => none

def momentField : Option Int :=
  match fields.lookup name with
  | some (.moment micros) => some micros
  | _ => none

/-- A text that may be missing. -/
def textField? : Option (Option String) :=
  match fields.lookup name with
  | some .null => some none
  | some (.text s) => some (some s)
  | _ => none

/-- A moment that may be missing. -/
def momentField? : Option (Option Int) :=
  match fields.lookup name with
  | some .null => some none
  | some (.moment micros) => some (some micros)
  | _ => none

end Fields

/-- The row with these fields, unless one of them is not there or of another type. -/
def Row.read (fields : List (String × Value)) : Option Row := do
  let id ← textField fields "id"
  let recipient ← textField fields "to_email"
  let subject ← textField fields "subject"
  let body ← textField fields "body"
  let status ← textField fields "status"
  let kind ← textField fields "type"
  let retryCount ← integerField fields "retry_count"
  let createdAt ← momentField fields "created_at"
  let sentAt ← momentField? fields "sent_at"
  let error ← textField? fields "error"
  return { id, recipient, subject, body, status, kind, retryCount, createdAt, sentAt, error }

/-- What an operation takes from a result: whoever asks for a record reads the first row,
whose fault is `unread` if that cannot be done; nobody else looks at rows. -/
def received (operation : Operation) (unread : Fault) (result : ResultSet) :
    Except Fault Database.Reply :=
  match operation, result.rows with
  | .get _, fields :: _ =>
      match Row.read fields with
      | some row => .ok ⟨[row], result.affected⟩
      | none => .error unread
  | _, _ => .ok ⟨[], result.affected⟩

/-! ## A database and its server -/

/-- An operation, and what surrounds it. -/
structure Request where
  operation : Operation
  /-- When the breaker is asked. -/
  start : Instant
  /-- When the breaker is told. -/
  finish : Instant
  /-- The fault of a row that cannot be read. -/
  unread : Fault

/-- A database behind its breaker, and what its server keeps. -/
structure Remote (server : Server) where
  breaker : Circuit.Breaker
  state : server.State

section Remote

variable {server : Server}

/-- What the server does on the operation's statement. -/
def Request.executed (r : Request) (state : server.State) :
    Except Fault ResultSet × server.State :=
  let query := Query.ofOperation r.operation
  server.execute state query.statement query.parameters

/-- The operation with the server's answer. -/
def Request.exchange (r : Request) (state : server.State) : Database.Exchange where
  operation := r.operation
  answer := some ((r.executed state).1.bind (received r.operation r.unread))
  start := r.start
  finish := r.finish

/-- Performs an operation.  One that the breaker turns away does not come to the server. -/
def Remote.step (remote : Remote server) (r : Request) : Outcome × Remote server :=
  let exchange := r.exchange remote.state
  let turn := Database.step remote.breaker exchange
  let reached := (exchange.admission remote.breaker).permit.isSome
  (turn.outcome, ⟨turn.breaker, if reached then (r.executed remote.state).2 else remote.state⟩)

end Remote

end Courier.Store
