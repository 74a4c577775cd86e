/-
# Courier.Json.Decoder -- typed values out of JSON

A decoder takes a document apart in the order of its text and stops at the first
fault, be it in the text or in what the text says (`DecodeError`).

The document comes from a whole value or from a text that is still being read
(`Source`).  The two differ in what is said of surplus: after the last item of a
record, or after the one field of a variant, a value is of the wrong length, while
a text has gone on where it had to end.

A record is an object with fields in any order (unknown ones are skipped, repeated
ones refused, and missing ones told last) or an array with its members in the
order of declaration.
-/
import Courier.Json.Reader
import Courier.Text.Escape

namespace Courier.Json

set_option autoImplicit false

/-- What a document turned out to be. -/
inductive Found where
  | null
  | bool (b : Bool)
  | number (n : Json.Number)
  | string (s : String)
  | sequence
  | map

def Found.describe : Found → String
  | .null => "null"
  | .bool b => "boolean `" ++ (if b then "true" else "false") ++ "`"
  | .number (.real x) => "floating point `" ++ x.render ++ "`"
  | .number n => "integer `" ++ n.render ++ "`"
  | .string s => "string " ++ Text.quoted s
  | .sequence => "sequence"
  | .map => "map"

/-- What is wrong with a value. -/
inductive DataError where
  | invalidType (found : Found) (expected : String)
  | invalidValue (found : Found) (expected : String)
  | invalidLength (length : Nat) (expected : String)
  | unknownVariant (name : String) (variants : List String)
  | unknownField (name : String) (fields : List String)
  | missingField (name : String)
  | duplicateField (name : String)
  /-- A fault in the domain's own words. -/
  | custom (message : String)

/-- A list of names, each between backticks. -/
def oneOf (names : List String) : String :=
  let quote (name : String) := "`" ++ name ++ "`"
  match names with
  | [a] => quote a
  | [a, b] => quote a ++ " or " ++ quote b
  | names => "one of " ++ ", ".intercalate (names.map quote)

def DataError.message : DataError → String
  | .invalidType found expected =>
      "invalid type: " ++ found.describe ++ ", expected " ++ expected
  | .invalidValue found expected =>
      "invalid value: " ++ found.describe ++ ", expected " ++ expected
  | .invalidLength length expected =>
      "invalid length " ++ toString length ++ ", expected " ++ expected
  | .unknownVariant name variants =>
      "unknown variant `" ++ name ++ "`, expected " ++ oneOf variants
  | .unknownField name fields => "unknown field `" ++ name ++ "`, expected " ++ oneOf fields
  | .missingField name => "missing field `" ++ name ++ "`"
  | .duplicateField name => "duplicate field `" ++ name ++ "`"
  | .custom message => message

/-- Why a document does not decode. -/
inductive DecodeError where
  | data (error : DataError)
  | text (fault : Fault)

/-- Where documents come from. -/
inductive Source where
  /-- A value that is already whole. -/
  | tree
  /-- A text that is read while it is decoded. -/
  | stream
  deriving DecidableEq

/-- Takes a typed value out of a document. -/
abbrev Decoder (α : Type) := Source → Document → Except DecodeError α

namespace Decoder

/-- What a document turned out to be; a fault when it cannot be read. -/
def found : Document → Except DecodeError Found
  | .null => .ok .null
  | .bool b => .ok (.bool b)
  | .number n => .ok (.number n)
  | .string s => .ok (.string s)
  | .illegible _ reading _ => .error (.text reading)
  | .array .. => .ok .sequence
  | .object .. => .ok .map

/-- Refuses a document for being of the wrong type. -/
def mistyped {α : Type} (expected : String) (d : Document) : Except DecodeError α := do
  .error (.data (.invalidType (← found d) expected))

/-- Any text. -/
def string : Decoder String := fun _ d =>
  match d with
  | .string s => .ok s
  | d => mistyped "a string" d

/-- A whole number from zero to `bound`, which is said to be `expected`. -/
def natural (bound : Nat) (expected : String) : Decoder Nat := fun _ d =>
  match d with
  | .number (.natural n) =>
      if n ≤ bound then .ok n
      else .error (.data (.invalidValue (.number (.natural n)) expected))
  | .number (.negative n) => .error (.data (.invalidValue (.number (.negative n)) expected))
  | d => mistyped expected d

/-- Null for nothing, or a value. -/
def optional {α : Type} (inner : Decoder α) : Decoder (Option α) := fun source d =>
  match d with
  | .null => .ok none
  | d => (inner source d).map some

/-- Text that stands for a value in some notation. -/
def parsed {α : Type} (expected : String) (parse : String → Except String α) : Decoder α :=
  fun _ d =>
    match d with
    | .string s => (parse s).mapError fun message => .data (.custom message)
    | d => mistyped expected d

/-- Null, where a variant has nothing to carry. -/
def unit (d : Document) : Except DecodeError Unit :=
  match d with
  | .null => .ok ()
  | d => mistyped "unit" d

/-- One of several names, alone or as the one field of an object with null in it. -/
def variant {α : Type} (names : List String) (ofName? : String → Option α) : Decoder α :=
  let select (name : String) : Except DecodeError α :=
    match ofName? name with
    | some a => .ok a
    | none => .error (.data (.unknownVariant name names))
  let surplus (source : Source) : Except DecodeError α :=
    match source with
    | .tree => .error (.data (.invalidValue .map "map with a single key"))
    | .stream => .error (.text .syntaxError)
  fun source d =>
    match d with
    | .string s => select s
    | .object [] none => surplus source
    | .object [] (some fault) => .error (.text fault)
    | .object ((.illegible reading _, _) :: _) _ => .error (.text reading)
    | .object ((.name name, value) :: more) ending =>
        if source = .tree && !more.isEmpty then surplus source
        else do
          let a ← select name
          unit value
          match more, ending with
          | [], none => pure a
          | [], some fault => .error (.text fault)
          | _ :: _, _ => .error (.text .syntaxError)
    | .illegible token reading _ =>
        .error (.text (if token = .bare then .syntaxError else reading))
    | d =>
        match source with
        | .tree => mistyped "string or map" d
        | .stream => .error (.text .syntaxError)

/-- One member of a record: its name, and whether a document will do for it. -/
structure Member where
  name : String
  check : Source → Document → Except DecodeError Unit

/-- A member that a decoder takes. -/
def member {α : Type} (name : String) (decoder : Decoder α) : Member :=
  ⟨name, fun source d => (decoder source d).map fun _ => ()⟩

/-- The documents of a record's members, by name. -/
abbrev Slots := List (String × Document)

/-- Goes through the fields of an object. -/
def fieldSlots (source : Source) (members : List Member) (strict : Bool) (slots : Slots) :
    List (Key × Document) → Except DecodeError Slots
  | [] => .ok slots
  | (.illegible reading _, _) :: _ => .error (.text reading)
  | (.name key, value) :: rest =>
      match members.find? (·.name == key) with
      | some m =>
          if slots.any (·.1 == key) then .error (.data (.duplicateField key))
          else do
            m.check source value
            fieldSlots source members strict (slots ++ [(key, value)]) rest
      | none =>
          if strict then .error (.data (.unknownField key (members.map (·.name))))
          else
            match value.skipFault with
            | some fault => .error (.text fault)
            | none => fieldSlots source members strict slots rest

/-- Goes through the items of an array; `total` is how many there are. -/
def itemSlots (source : Source) (expected : String) (total : Nat) (slots : Slots) :
    List Member → List Document → Option Fault → Except DecodeError Slots
  | [], [], none => .ok slots
  | [], [], some fault => .error (.text fault)
  | [], _ :: _, _ =>
      match source with
      | .tree => .error (.data (.invalidLength total "fewer elements in array"))
      | .stream => .error (.text .syntaxError)
  | _ :: _, [], none => .error (.data (.invalidLength slots.length expected))
  | _ :: _, [], some fault => .error (.text fault)
  | m :: members, d :: documents, ending => do
      m.check source d
      itemSlots source expected total (slots ++ [(m.name, d)]) members documents ending

/-- How a record is told from others: what is said when something else stands in
its place, and when an array is too short. -/
structure Shape where
  expected : String
  arrayExpected : String
  members : List Member
  /-- Whether unknown fields are refused. -/
  strict : Bool

/-- A record that skips unknown fields. -/
def Shape.struct (name : String) (members : List Member) : Shape where
  expected := "struct " ++ name
  arrayExpected := "struct " ++ name ++ " with " ++ toString members.length ++
    (if members.length = 1 then " element" else " elements")
  members := members
  strict := false

/-- The documents of a record's members. -/
def slots (shape : Shape) (source : Source) (d : Document) : Except DecodeError Slots :=
  match d with
  | .object fields ending => do
      let slots ← fieldSlots source shape.members shape.strict [] fields
      match ending with
      | none => pure slots
      | some fault => .error (.text fault)
  | .array items ending =>
      itemSlots source shape.arrayExpected items.length [] shape.members items ending
  | d => mistyped shape.expected d

/-- A member that has to be there. -/
def required {α : Type} (source : Source) (slots : Slots) (name : String) (decoder : Decoder α) :
    Except DecodeError α :=
  match slots.find? (·.1 == name) with
  | some (_, d) => decoder source d
  | none => .error (.data (.missingField name))

/-- A member that may be missing. -/
def lenient {α : Type} (source : Source) (slots : Slots) (name : String) (decoder : Decoder α) :
    Except DecodeError (Option α) :=
  match slots.find? (·.1 == name) with
  | some (_, d) => optional decoder source d
  | none => .ok none

end Decoder

/-- Decodes a text; what follows the value is looked at last. -/
def decodeText {α : Type} (decoder : Decoder α) (text : String) : Except DecodeError α :=
  let (document, trailing) := Document.read text
  match decoder .stream document, trailing with
  | .ok _, some fault => .error (.text fault)
  | result, _ => result

/-- Decodes a value. -/
def decode {α : Type} (decoder : Decoder α) (value : Json) : Except DataError α :=
  (decoder .tree (.ofJson value)).mapError fun
    | .data error => error
    | .text _ => .custom ""

end Courier.Json
