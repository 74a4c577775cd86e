/-
# Courier.Log.Directive -- which lines are meant, and how many of them are kept

A directive is `target[span{field=value}]=level`, all of it optional but for one of
the parts.  It is read in one pass over its characters (`step`).  A name alone is a
level if it reads as one and else a target, all of whose lines are kept.  A value is a
number or a search pattern.

The pass goes over the text without the blanks around it, and yet the parts it finds
are cut out of the whole text at the places counted that way: behind a blank every
part begins too early.
-/
import Courier.Text.Alphanumeric
import Courier.Text.Pattern
import Courier.Text.Scan
import Courier.Text.Utf8

namespace Courier.Log

set_option autoImplicit false

/-- A field that a directive asks for. -/
structure FieldMatch where
  name : List Char
  /-- Whether the field has to have a certain value. -/
  valued : Bool
  deriving DecidableEq

/-- Which lines are meant, and how many of them are kept. -/
structure Directive where
  /-- What their target begins with. -/
  target : Option (List Char)
  /-- The name of the span they are in. -/
  span : Option (List Char)
  /-- Fields they have. -/
  fields : List FieldMatch
  /-- Rank of the least grave level that is kept; zero for nothing. -/
  rank : Nat
  deriving DecidableEq

namespace Directive

/-- Why a text is no directive. -/
inductive Fault where
  | malformed
  /-- What stands in the place of a level is none. -/
  | level
  /-- What stands in the place of a value is none. -/
  | value (fault : Text.Pattern.Fault)
  deriving DecidableEq

def Fault.message : Fault → String
  | .malformed => "invalid filter directive"
  | .level => "error parsing level filter: expected one of \"off\", \"error\", \"warn\", " ++
      "\"info\", \"debug\", \"trace\", or a number 0-5"
  | .value fault => "invalid field filter: " ++ fault.message

/-- The rank that keeps everything. -/
def everything : Nat := 5

/-- The levels by rank. -/
def levelNames : List String := ["off", "error", "warn", "info", "debug", "trace"]

/-- The rank a level is written by, as a number or in words of any case. -/
def rankOf? (text : List Char) : Option Nat :=
  match Text.Integer.read everything text with
  | .ok rank => some rank
  | .error _ => levelNames.findIdx? (· == String.ofList (text.map Char.toLower))

/-- The characters of a text from a byte up to another. -/
def slice (start stop : Nat) (text : List Char) (offset : Nat) : List Char :=
  match text with
  | [] => []
  | c :: rest =>
      let more := slice start stop rest (offset + c.utf8Size)
      if start ≤ offset ∧ offset < stop then c :: more else more

/-- The place in a directive that a reading has come to; a number is the byte where
the part under way began. -/
inductive Place where
  | start
  /-- In a level or a target. -/
  | name (start : Nat)
  | span (start : Nat)
  | field (start : Nat)
  /-- Behind the fields. -/
  | fieldsEnd
  /-- Behind the bracket. -/
  | spanEnd
  | level (start : Nat)

/-- A directive being read. -/
structure Reading where
  place : Place
  /-- Bytes that were passed. -/
  offset : Nat
  directive : Directive

/-- The rest of a text behind its sign, if it has one. -/
def behindSign (text : List Char) : List Char :=
  ((Text.mark '+' text).or (Text.mark '-' text)).getD text

/-- Whether a text is a decimal number, whole or broken, or one that is not finite. -/
def isNumeral (text : List Char) : Bool :=
  let lower := (behindSign text).map Char.toLower
  let (mantissa, exponent) := Text.upTo ['e'] lower
  let (whole, broken) := Text.upTo ['.'] mantissa
  let digits := whole ++ broken.drop 1
  ["inf", "infinity", "nan"].contains (String.ofList lower) ||
    (!digits.isEmpty && digits.all Char.isDigit &&
      match Text.mark 'e' exponent with
      | none => true
      | some exponent =>
          let power := behindSign exponent
          !power.isEmpty && power.all Char.isDigit)

/-- What is wrong with a value, if anything is.  Numbers are looked for first, since a
pattern cannot begin with a plus sign. -/
def valueFault? (value : List Char) : Option Fault :=
  if isNumeral value then none else (Text.Pattern.fault? value).map .value

/-- A field as it is written: a name, and a value between equals signs. -/
def readField (text : List Char) : Except Fault FieldMatch :=
  match Text.pieces '=' text with
  | [[]] => .error .malformed
  | name :: value :: _ =>
      match valueFault? value with
      | some fault => .error fault
      | none => .ok ⟨name, true⟩
  | _ => .ok ⟨text, false⟩

/-- Whether a target or a level may begin with a character. -/
def isNameStart (c : Char) : Bool := ['-', ':', '_'].contains c || Text.isAlphanumeric c

/-- The place behind a character, and what is known of the directive there. -/
def advance (piece : List Char) (r : Reading) (c : Char) : Except Fault (Place × Directive) :=
  let part (start : Nat) : List Char := slice start r.offset piece 0
  let next := r.offset + 1
  let d := r.directive
  match r.place with
  | .start =>
      if c = '[' then .ok (.span next, d)
      else if isNameStart c then .ok (.name r.offset, d)
      else .error .malformed
  | .name start =>
      if c = '=' then .ok (.level next, { d with target := some (part start) })
      else if c = '[' then .ok (.span next, { d with target := some (part start) })
      else .ok (.name start, d)
  | .span start =>
      if c = ']' then .ok (.spanEnd, { d with span := some (part start) })
      else if c = '\x7b' then
        let span := if (part start).isEmpty then none else some (part start)
        .ok (.field next, { d with span := span })
      else .ok (.span start, d)
  | .field start =>
      if c = '\x7d' then
        (readField (part start)).map fun field =>
          (.fieldsEnd, { d with fields := d.fields ++ [field] })
      else .ok (.field start, d)
  | .fieldsEnd => if c = ']' then .ok (.spanEnd, d) else .error .malformed
  | .spanEnd => if c = '=' then .ok (.level next, d) else .error .malformed
  | .level start => .ok (.level start, d)

def step (piece : List Char) (r : Reading) (c : Char) : Except Fault Reading :=
  (advance piece r c).map fun (place, directive) => ⟨place, r.offset + c.utf8Size, directive⟩

/-- The directive at the end of its text. -/
def finish (piece : List Char) (r : Reading) : Except Fault Directive :=
  let part (start : Nat) : List Char := slice start (Text.Utf8.byteLength piece) piece 0
  let d := r.directive
  match r.place with
  | .name start =>
      match rankOf? (part start) with
      | some rank => .ok { d with rank := rank }
      | none => .ok { d with target := some (part start) }
  | .level start =>
      if (part start).isEmpty then .ok d
      else
        match rankOf? (part start) with
        | some rank => .ok { d with rank := rank }
        | none => .error .level
  | .spanEnd => .ok d
  | _ => .error .malformed

/-- Reads a directive. -/
def read (piece : List Char) : Except Fault Directive :=
  match (Text.trim piece).foldlM (step piece) ⟨.start, 0, ⟨none, none, [], everything⟩⟩ with
  | .error fault => .error fault
  | .ok r => finish piece r

/-- Whether lines outside spans can meet a directive. -/
def isStatic (d : Directive) : Bool := d.span.isNone && d.fields.all (!·.valued)

/-- Whether lines inside spans can meet a directive that others do not. -/
def isDynamic (d : Directive) : Bool := d.span.isSome || !d.fields.isEmpty

/-- The names of the fields that a directive asks for. -/
def fieldNames (d : Directive) : List (List Char) := d.fields.map FieldMatch.name

end Directive

end Courier.Log
