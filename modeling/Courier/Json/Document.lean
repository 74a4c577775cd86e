/-
# Courier.Json.Document -- JSON text as far as it goes

Text that is not JSON still has a beginning that is, and a decoder may find the
beginning wrong before it ever comes to the place where the text breaks.  A
`Document` therefore holds a text as far as it could be read: fields in the order
of the text with repetitions kept, and the `Fault` that ended the reading at the
place where it happened.

Some tokens are well formed and yet stand for nothing: a string with half a
surrogate pair, a number beyond the range.  They are `illegible`: a fault for
whoever wants their value and none for whoever skips them.  The same holds for the
keys of an object.  A comma announces a field, so where none follows there is a
field with a key that cannot be read.

`Document.ofJson` is the document of a value, its fields sorted by key.
-/
import Courier.Json

namespace Courier.Json

set_option autoImplicit false

/-- Why a text is not JSON. -/
inductive Fault where
  /-- Something stands where it may not. -/
  | syntaxError
  /-- The text ends too early. -/
  | unexpectedEnd
  deriving DecidableEq

/-- How a token that stands for nothing begins. -/
inductive Token where
  /-- With a quote. -/
  | text
  /-- As a number or a word. -/
  | bare
  /-- Not at all: there is no token. -/
  | absent
  deriving DecidableEq

/-- The key of a field as far as it goes. -/
inductive Key where
  | name (s : String)
  /-- No name: the fault in reading it, and the fault in skipping it if there is one. -/
  | illegible (reading : Fault) (skipping : Option Fault)

/-- The fault met in skipping a key. -/
def Key.skipFault : Key → Option Fault
  | .name _ => none
  | .illegible _ skipping => skipping

/-- JSON text as far as it goes. -/
inductive Document where
  | null
  | bool (b : Bool)
  | number (n : Json.Number)
  | string (s : String)
  /-- A token without a value: how it begins, the fault in reading it, and the fault
  in skipping it if there is one. -/
  | illegible (token : Token) (reading : Fault) (skipping : Option Fault)
  /-- Items, and what ended them other than the closing bracket. -/
  | array (items : List Document) (ending : Option Fault)
  /-- Fields, and what ended them other than the closing brace. -/
  | object (fields : List (Key × Document)) (ending : Option Fault)

namespace Document

instance : Inhabited Document := ⟨.null⟩

/-- Text that breaks off in a token. -/
def broken (token : Token) (fault : Fault) : Document := .illegible token fault (some fault)

mutual

/-- The fault met in skipping a document. -/
def skipFault : Document → Option Fault
  | .illegible _ _ skipping => skipping
  | .array items ending => (skipItems items).or ending
  | .object fields ending => (skipFields fields).or ending
  | _ => none

def skipItems : List Document → Option Fault
  | [] => none
  | item :: items => item.skipFault.or (skipItems items)

def skipFields : List (Key × Document) → Option Fault
  | [] => none
  | (key, value) :: fields => key.skipFault.or (value.skipFault.or (skipFields fields))

end

/-- Fields sorted by key. -/
def sortFields (fields : List (String × Document)) : List (Key × Document) :=
  (fields.mergeSort fun a b => decide (a.1 ≤ b.1)).map fun (key, value) => (.name key, value)

mutual

/-- The document of a value. -/
def ofJson : Json → Document
  | .null => .null
  | .bool b => .bool b
  | .number n => .number n
  | .string s => .string s
  | .array items => .array (ofItems items) none
  | .object fields => .object (sortFields (ofFields fields)) none

def ofItems : List Json → List Document
  | [] => []
  | item :: items => ofJson item :: ofItems items

def ofFields : List (String × Json) → List (String × Document)
  | [] => []
  | (key, value) :: fields => (key, ofJson value) :: ofFields fields

end

/-- Sets a field, in the place it already has if it has one. -/
def setField (fields : List (String × Json)) (key : String) (value : Json) :
    List (String × Json) :=
  if fields.any (·.1 == key) then
    fields.map fun field => if field.1 == key then (key, value) else field
  else fields ++ [(key, value)]

mutual

/-- The value of a document without faults; of fields with one key the last counts. -/
def toJson? : Document → Option Json
  | .null => some .null
  | .bool b => some (.bool b)
  | .number n => some (.number n)
  | .string s => some (.string s)
  | .illegible .. => none
  | .array items ending => if ending.isSome then none else (toItems? items).map .array
  | .object fields ending => if ending.isSome then none else (toFields? [] fields).map .object

def toItems? : List Document → Option (List Json)
  | [] => some []
  | item :: items => do
      let item ← item.toJson?
      let items ← toItems? items
      some (item :: items)

def toFields? (known : List (String × Json)) :
    List (Key × Document) → Option (List (String × Json))
  | [] => some known
  | (.illegible .., _) :: _ => none
  | (.name key, value) :: fields => do
      let value ← value.toJson?
      toFields? (setField known key value) fields

end

end Document

end Courier.Json
