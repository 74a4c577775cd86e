/-
# Courier.Store -- notification records

A store holds records by id.  Updates need a record to exist, and creation needs it
not to; an operation that fails changes nothing.  This one lives in memory.

What is asked of a store is data (`Operation`), so that one sequence of operations can be put
to different stores.  `Store.apply` is what the store in memory does.
-/
import Courier.Notification
import Courier.ServiceError

namespace Courier

set_option autoImplicit false

/-- Records in the order in which they were created, no two with one id. -/
structure Store where
  records : List Notification
  deriving DecidableEq

namespace Store

def empty : Store := ⟨[]⟩

def size (s : Store) : Nat := s.records.length

/-- The record with an id. -/
def find? (s : Store) (id : String) : Option Notification := s.records.find? (·.id == id)

/-- Adds a record. -/
def create (s : Store) (n : Notification) : Except ServiceError Store :=
  match s.find? n.id with
  | some _ => .error (.database ("notification " ++ n.id ++ " already exists"))
  | none => .ok ⟨s.records ++ [n]⟩

/-- The record with an id, or that there is none. -/
def get (s : Store) (id : String) : Except ServiceError Notification :=
  match s.find? id with
  | some n => .ok n
  | none => .error (.notFound id)

/-- Changes the record with an id. -/
def update (s : Store) (id : String) (change : Notification → Notification) :
    Except ServiceError Store :=
  match s.find? id with
  | some _ => .ok ⟨s.records.map fun n => if n.id == id then change n else n⟩
  | none => .error (.notFound id)

def setStatus (s : Store) (id : String) (status : Notification.Status) :
    Except ServiceError Store :=
  s.update id fun n => { n with status := status }

def markSent (s : Store) (id : String) (sentAt : Timestamp) (retries : UInt32) :
    Except ServiceError Store :=
  s.update id fun n => n.markSent sentAt retries

def markFailed (s : Store) (id error : String) (retries : UInt32) : Except ServiceError Store :=
  s.update id fun n => n.markFailed error retries

/-! ## Operations -/

/-- An operation on notification records. -/
inductive Operation where
  | create (n : Notification)
  | get (id : String)
  | setStatus (id : String) (status : Notification.Status)
  | markSent (id : String) (sentAt : Timestamp) (retries : UInt32)
  | markFailed (id error : String) (retries : UInt32)
  /-- Is the store there? -/
  | ping

/-- What an operation answers: a record if it asks for one. -/
abbrev Outcome := Except ServiceError (Option Notification)

/-- A write's outcome, and the store after it. -/
def written (s : Store) (result : Except ServiceError Store) : Outcome × Store :=
  match result with
  | .ok s => (.ok none, s)
  | .error e => (.error e, s)

/-- Performs an operation. -/
def apply (s : Store) : Operation → Outcome × Store
  | .create n => s.written (s.create n)
  | .get id => ((s.get id).map some, s)
  | .setStatus id status => s.written (s.setStatus id status)
  | .markSent id sentAt retries => s.written (s.markSent id sentAt retries)
  | .markFailed id error retries => s.written (s.markFailed id error retries)
  | .ping => (.ok none, s)

end Store

end Courier
