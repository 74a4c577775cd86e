/-
# Courier.Log -- lines of a log

A line has a level, the part of the program that wrote it, a message and fields.
It is written as text, the fields as `name=value` behind the message, or as a JSON
object.
-/
import Courier.Json

namespace Courier.Log

set_option autoImplicit false

/-- How grave a line is, gravest first. -/
inductive Level where
  | error
  | warn
  | info
  | debug
  | trace
  deriving DecidableEq

def Level.name : Level → String
  | .error => "ERROR"
  | .warn => "WARN"
  | .info => "INFO"
  | .debug => "DEBUG"
  | .trace => "TRACE"

/-- The place of a level in their order. -/
def Level.rank : Level → Nat
  | .error => 1
  | .warn => 2
  | .info => 3
  | .debug => 4
  | .trace => 5

/-- A line of the log. -/
structure Line where
  level : Level
  target : String
  message : String
  fields : List (String × Json)

/-- How lines are written. -/
inductive Format where
  | text
  | json
  deriving DecidableEq

/-- A field's value in text: strings stand as they are. -/
def plain : Json → String
  | .string s => s
  | value => value.render

namespace Line

/-- The line as text, without its level. -/
def text (l : Line) : String :=
  " ".intercalate ((l.target ++ ": " ++ l.message) ::
    l.fields.map fun (name, value) => name ++ "=" ++ plain value)

/-- The names of everything a line says. -/
def fieldNames (l : Line) : List String := "message" :: l.fields.map (·.1)

/-- The message and the fields as a JSON object. -/
def fieldsJson (l : Line) : Json := .object (("message", .string l.message) :: l.fields)

/-- The line as a JSON object. -/
def json (l : Line) : Json := .object
  [("level", .string l.level.name), ("fields", l.fieldsJson), ("target", .string l.target)]

/-- The line as it is written. -/
def render (format : Format) (l : Line) : String :=
  match format with
  | .text => l.level.name ++ " " ++ l.text
  | .json => l.json.render

end Line

end Courier.Log
