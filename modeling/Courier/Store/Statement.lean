/-
# Courier.Store.Statement -- statements on the table of notifications

The columns of the table by name, and the statements that operations come to, with the
columns they are about.  Parameters are told apart by their place: a statement assigns
the first to its first column and so on, and an update is about the rows whose key is
the last.  `Statement.sql` is the text that goes to the server.

`Column.takes` is which values a column holds: texts without a zero character, numbers of
32 bits with a sign, and moments of the server's calendar, which begins with the day from
which Julian days are counted and ends with the year 294276.
-/
import Courier.Store.Query

namespace Courier.Store

set_option autoImplicit false

/-- Whether a text can be sent: one with a zero character cannot. -/
def isSendable (s : String) : Bool := !s.toList.contains '\x00'

/-- The start of a date, in microseconds since the start of 2000. -/
def midnight (d : Date) : Int := (d.days - Date.days ⟨2000, 1, 1⟩) * 86400000000

/-- Whether a moment is between 24 November 4714 BC and the end of the year 294276. -/
def inCalendar (micros : Int) : Bool :=
  decide (midnight ⟨-4713, 11, 24⟩ ≤ micros ∧ micros < midnight ⟨294277, 1, 1⟩)

/-- A column of the table of notifications. -/
inductive Column where
  | id
  | recipient
  | subject
  | body
  | status
  | kind
  | retryCount
  | createdAt
  | sentAt
  | error
  deriving DecidableEq

namespace Column

/-- The columns in the order of the table. -/
def all : List Column :=
  [.id, .recipient, .subject, .body, .status, .kind, .retryCount, .createdAt, .sentAt, .error]

def name : Column → String
  | .id => "id"
  | .recipient => "to_email"
  | .subject => "subject"
  | .body => "body"
  | .status => "status"
  | .kind => "type"
  | .retryCount => "retry_count"
  | .createdAt => "created_at"
  | .sentAt => "sent_at"
  | .error => "error"

/-- The type of a column and what is demanded of it, as the table declares it. -/
def declaration : Column → String
  | .id => "TEXT PRIMARY KEY"
  | .recipient | .subject | .body | .kind => "TEXT NOT NULL"
  | .status => "TEXT NOT NULL DEFAULT 'pending'"
  | .retryCount => "INTEGER NOT NULL DEFAULT 0"
  | .createdAt => "TIMESTAMPTZ NOT NULL DEFAULT NOW()"
  | .sentAt => "TIMESTAMPTZ"
  | .error => "TEXT"

/-- Whether a column takes a value: one of its type, or none at all if it may be left
empty. -/
def takes : Column → Value → Bool
  | .id, .text s | .recipient, .text s | .subject, .text s | .body, .text s => isSendable s
  | .status, .text s | .kind, .text s | .error, .text s => isSendable s
  | .retryCount, .integer n => decide (-0x80000000 ≤ n ∧ n < 0x80000000)
  | .createdAt, .moment micros | .sentAt, .moment micros => inCalendar micros
  | .sentAt, .null | .error, .null => true
  | _, _ => false

/-- What a column holds when a row is inserted without it. -/
def default (now : Int) : Column → Value
  | .status => .text Notification.Status.pending.name
  | .retryCount => .integer 0
  | .createdAt => .moment now
  | _ => .null

end Column

/-- A statement with parameters. -/
inductive Statement where
  | insert (columns : List Column)
  /-- The rows with a key. -/
  | select (columns : List Column) (key : Column)
  | update (columns : List Column) (key : Column)
  /-- One row with the number one, from no table. -/
  | one

namespace Statement

/-- The parameter at a place, counted from one. -/
def parameter (place : Nat) : String := "$" ++ toString place

def names (columns : List Column) : String := ", ".intercalate (columns.map Column.name)

/-- The columns that a statement assigns. -/
def assigned : Statement → List Column
  | .insert columns | .update columns _ => columns
  | .select .. | .one => []

/-- The column by which a statement finds its rows. -/
def key? : Statement → Option Column
  | .select _ key | .update _ key => some key
  | .insert _ | .one => none

/-- The columns that the parameters are for, in their order. -/
def places (statement : Statement) : List Column := statement.assigned ++ statement.key?.toList

/-- Whether every place has a parameter, which its column takes. -/
def accepts (statement : Statement) (values : List Value) : Bool :=
  decide (values.length = statement.places.length) &&
    (statement.places.zip values).all fun (column, value) => column.takes value

/-- The statement's text. -/
def sql : Statement → String
  | .insert columns =>
      "INSERT INTO notifications (" ++ names columns ++ ") VALUES (" ++
        ", ".intercalate ((List.range columns.length).map fun i => parameter (i + 1)) ++ ")"
  | .select columns key =>
      "SELECT " ++ names columns ++ " FROM notifications WHERE " ++ key.name ++ " = " ++
        parameter 1
  | .update columns key =>
      "UPDATE notifications SET " ++
        ", ".intercalate (columns.zipIdx.map fun (c, i) => c.name ++ " = " ++ parameter (i + 1)) ++
        " WHERE " ++ key.name ++ " = " ++ parameter (columns.length + 1)
  | .one => "SELECT 1"

end Statement

/-- The statement of a query. -/
def Query.statement : Query → Statement
  | .insert _ => .insert Column.all
  | .select _ => .select Column.all .id
  | .setStatus .. => .update [.status] .id
  | .setSent .. => .update [.status, .sentAt, .retryCount] .id
  | .setFailed .. => .update [.status, .error, .retryCount] .id
  | .ping => .one

end Courier.Store
