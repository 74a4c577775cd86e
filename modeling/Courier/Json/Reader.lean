/-
# Courier.Json.Reader -- reading JSON text

`Document.read` reads a text as far as it is JSON.  Whole numbers that fit 64 bits
keep their kind; every other number is binary64: its digits as a natural number
below `2 ^ 64` (what follows the last digit that fits only counts as places), times
or over a power of ten, each of those steps rounded.  A product beyond the finite
range is no number.
-/
import Courier.Json.Document
import Courier.Text.Scan
import Courier.Text.Utf8

namespace Courier.Json

set_option autoImplicit false

namespace Reader

/-! ## Numbers -/

/-- The power of ten below `10 ^ 309` as a binary64 number. -/
def powerOfTen (n : Nat) : Binary64 := .ofNat (Nat.pow 10 n)

/-- `x` over `10 ^ n`, in steps of `10 ^ 308` at most. -/
def overPower (x : Binary64) (n : Nat) : Binary64 :=
  if x.isZero then x
  else if n ≤ 308 then x.div (powerOfTen n)
  else overPower (x.div (powerOfTen 308)) (n - 308)
termination_by n

/-- `significand * 10 ^ exponent`; `none` beyond the finite range. -/
def scaled (negative : Bool) (significand : Nat) (exponent : Int) : Option Json.Number :=
  let x := Binary64.ofNat significand
  let magnitude : Option Binary64 :=
    if exponent < 0 then some (overPower x exponent.natAbs)
    else if x.isZero && 308 < exponent then some x
    else if 308 < exponent then none
    else
      let product := x.mul (powerOfTen exponent.toNat)
      if product.isInfinite then none else some product
  magnitude.map fun m => .real (if negative then m.neg else m)

/-- The value of a digit. -/
def digit (c : Char) : Nat := c.toNat - '0'.toNat

/-- Adds digits to a significand for as long as it stays below `2 ^ 64`; answers it
and the digits left over. -/
def accumulate (significand : Nat) : List Char → Nat × List Char
  | [] => (significand, [])
  | c :: rest =>
      let grown := significand * 10 + digit c
      if grown < UInt64.size then accumulate grown rest else (significand, c :: rest)

/-- The parts of a number token. -/
structure Token where
  negative : Bool
  whole : List Char
  /-- Digits after the point; `none` without a point. -/
  fraction : Option (List Char)
  /-- Sign and digits of the exponent. -/
  exponent : Option (Bool × List Char)

/-- The value of decimal digits. -/
def valueOf (digits : List Char) : Nat := digits.foldl (fun n c => n * 10 + digit c) 0

/-- The exponent a token spells out, bounded by 32 bits: `none` when its digits
exceed them. -/
def Token.exponentValue (t : Token) : Option Int :=
  match t.exponent with
  | none => some 0
  | some (negative, digits) =>
      let n := valueOf digits
      if n < 0x80000000 then some (if negative then -(n : Int) else n) else none

/-- The number a token stands for; `none` beyond the range. -/
def Token.number (t : Token) : Option Json.Number :=
  let (whole, wholeLeft) := accumulate 0 t.whole
  if t.fraction.isNone && t.exponent.isNone && wholeLeft.isEmpty then
    if !t.negative then some (.natural whole)
    else if whole = 0 then some (.real (Binary64.zero.neg))
    else if whole ≤ 0x8000000000000000 then some (.negative (whole - 1))
    else some (.real (Binary64.ofNat whole).neg)
  else
    let fraction := t.fraction.getD []
    let (significand, fractionLeft) := accumulate whole fraction
    let places : Int := wholeLeft.length - (fraction.length - fractionLeft.length : Nat)
    match t.exponentValue with
    | some e => scaled t.negative significand (places + e)
    | none =>
        let upwards := t.exponent.any (!·.1)
        if significand ≠ 0 && upwards then none
        else some (.real (if t.negative then Binary64.zero.neg else Binary64.zero))

/-- What could be taken off the front of a text: a result and the rest, or a fault
where the text breaks. -/
abbrev Taken (α : Type) := Except Fault (α × List Char)

/-- One digit at least. -/
def digits (text : List Char) : Taken (List Char) :=
  match text with
  | [] => .error .unexpectedEnd
  | c :: _ =>
      if c.isDigit then .ok (text.takeWhile Char.isDigit, text.dropWhile Char.isDigit)
      else .error .syntaxError

/-- The whole part: a zero alone, or digits that do not start with one. -/
def wholePart (text : List Char) : Taken (List Char) :=
  match digits text with
  | .error fault => .error fault
  | .ok ('0' :: _ :: _, _) => .error .syntaxError
  | .ok whole => .ok whole

def fractionPart (text : List Char) : Taken (Option (List Char)) :=
  match text with
  | '.' :: rest => (digits rest).map fun (taken, rest) => (some taken, rest)
  | _ => .ok (none, text)

def exponentPart (text : List Char) : Taken (Option (Bool × List Char)) :=
  let signed (text : List Char) : Taken (Option (Bool × List Char)) :=
    let (negative, text) := match text with
      | '+' :: rest => (false, rest)
      | '-' :: rest => (true, rest)
      | _ => (false, text)
    (digits text).map fun (taken, rest) => (some (negative, taken), rest)
  match text with
  | 'e' :: rest => signed rest
  | 'E' :: rest => signed rest
  | _ => .ok (none, text)

/-- A number token, its sign already taken. -/
def numberToken (negative : Bool) (text : List Char) : Taken Token :=
  match wholePart text with
  | .error fault => .error fault
  | .ok (whole, text) =>
      match fractionPart text with
      | .error fault => .error fault
      | .ok (fraction, text) =>
          (exponentPart text).map fun (exponent, text) =>
            (⟨negative, whole, fraction, exponent⟩, text)

/-! ## Strings -/

/-- Four hexadecimal digits.  A text ends too early when it has no four bytes left. -/
def hexQuad (text : List Char) : Taken Nat :=
  match text with
  | a :: b :: c :: d :: rest =>
      match Text.Hexadecimal.digit? a, Text.Hexadecimal.digit? b, Text.Hexadecimal.digit? c,
          Text.Hexadecimal.digit? d with
      | some a, some b, some c, some d => .ok (((a * 16 + b) * 16 + c) * 16 + d, rest)
      | _, _, _, _ => .error .syntaxError
  | _ => .error (if Text.Utf8.byteLength text < 4 then .unexpectedEnd else .syntaxError)

/-- One piece of a string: a character, or a 16-bit unit written as an escape. -/
inductive Piece where
  | character (c : Char)
  | unit (n : Nat)

/-- The character that a short escape stands for. -/
def shortEscape? : Char → Option Char
  | '"' => some '"'
  | '\\' => some '\\'
  | '/' => some '/'
  | 'b' => some '\x08'
  | 'f' => some '\x0c'
  | 'n' => some '\n'
  | 'r' => some '\r'
  | 't' => some '\t'
  | _ => none

/-- The pieces up to the closing quote, in the order of the text; the fault, if the
text breaks before it, with the pieces that were read until then. -/
def pieces : (fuel : Nat) → List Char → List Piece × Except Fault (List Char)
  | 0, _ => ([], .error .unexpectedEnd)
  | _, [] => ([], .error .unexpectedEnd)
  | _, '"' :: rest => ([], .ok rest)
  | _, ['\\'] => ([], .error .unexpectedEnd)
  | fuel + 1, '\\' :: 'u' :: rest =>
      match hexQuad rest with
      | .error fault => ([], .error fault)
      | .ok (n, rest) =>
          let (more, ended) := pieces fuel rest
          (.unit n :: more, ended)
  | fuel + 1, '\\' :: c :: rest =>
      match shortEscape? c with
      | none => ([], .error .syntaxError)
      | some c =>
          let (more, ended) := pieces fuel rest
          (.character c :: more, ended)
  | fuel + 1, c :: rest =>
      if c.toNat < 0x20 then ([], .error .syntaxError)
      else
        let (more, ended) := pieces fuel rest
        (.character c :: more, ended)

/-- Puts units together to characters.  `none` when half of a pair stands alone;
`ended` says whether the text goes on after the pieces. -/
def assemble : List Piece → Option (List Char)
  | [] => some []
  | .character c :: rest => (assemble rest).map (c :: ·)
  | .unit n :: rest =>
      if 0xDC00 ≤ n ∧ n ≤ 0xDFFF then none
      else if 0xD800 ≤ n ∧ n ≤ 0xDBFF then
        match rest with
        | .unit m :: rest =>
            if 0xDC00 ≤ m ∧ m ≤ 0xDFFF then
              (assemble rest).map
                (Char.ofNat (0x10000 + (n - 0xD800) * 0x400 + (m - 0xDC00)) :: ·)
            else none
        | _ => none
      else (assemble rest).map (Char.ofNat n :: ·)

/-- Whether half of a pair stands alone before the pieces break off.  A first half
at the very end says nothing yet. -/
def halfPair : List Piece → Bool
  | [] => false
  | .character _ :: rest => halfPair rest
  | .unit n :: rest =>
      if 0xDC00 ≤ n ∧ n ≤ 0xDFFF then true
      else if 0xD800 ≤ n ∧ n ≤ 0xDBFF then
        match rest with
        | [] => false
        | .unit m :: rest => if 0xDC00 ≤ m ∧ m ≤ 0xDFFF then halfPair rest else true
        | .character _ :: _ => true
      else halfPair rest

/-- A text after its opening quote, and the rest if it does not break. -/
def textToken (text : List Char) : Key × Option (List Char) :=
  match pieces (text.length + 1) text with
  | (read, .ok rest) =>
      match assemble read with
      | some cs => (.name (String.ofList cs), some rest)
      | none => (.illegible .syntaxError none, some rest)
  | (read, .error fault) =>
      (.illegible (if halfPair read then .syntaxError else fault) (some fault), none)

/-- A text as a value. -/
def textDocument : Key → Document
  | .name s => .string s
  | .illegible reading skipping => .illegible .text reading skipping

/-! ## Values -/

def isSpace (c : Char) : Bool := c == ' ' || c == '\n' || c == '\t' || c == '\r'

def skipSpace (text : List Char) : List Char := text.dropWhile isSpace

/-- A word that must follow letter by letter. -/
def word (value : Document) : List Char → List Char → Document × Option (List Char)
  | [], rest => (value, some rest)
  | _, [] => (.broken .bare .unexpectedEnd, none)
  | expected :: word', c :: rest =>
      if c = expected then word value word' rest else (.broken .bare .syntaxError, none)

/-- A number token as a document.  Whoever skips it does not tell an early end of the
text from anything else that is no digit. -/
def numberDocument (negative : Bool) (text : List Char) : Document × Option (List Char) :=
  match numberToken negative text with
  | .error fault => (.illegible .bare fault (some .syntaxError), none)
  | .ok (token, rest) =>
      match token.number with
      | some n => (.number n, some rest)
      | none => (.illegible .bare .syntaxError none, some rest)

/-- A field without a key, where a comma announced one. -/
def missingField (fault : Fault) : Key × Document :=
  (.illegible fault (some fault), .broken .absent fault)

mutual

/-- A value at the front of a text, and the rest if the text does not break in it. -/
def value : (fuel : Nat) → List Char → Document × Option (List Char)
  | 0, _ => (.broken .absent .syntaxError, none)
  | fuel + 1, text =>
      match skipSpace text with
      | [] => (.broken .absent .unexpectedEnd, none)
      | 'n' :: rest => word .null ['u', 'l', 'l'] rest
      | 't' :: rest => word (.bool true) ['r', 'u', 'e'] rest
      | 'f' :: rest => word (.bool false) ['a', 'l', 's', 'e'] rest
      | '"' :: rest =>
          let (read, rest) := textToken rest
          (textDocument read, rest)
      | '[' :: rest =>
          let (items, ending, rest) := items fuel true rest
          (.array items ending, rest)
      | '\x7b' :: rest =>
          let (fields, ending, rest) := fields fuel true rest
          (.object fields ending, rest)
      | '-' :: rest => numberDocument true rest
      | c :: rest =>
          if c.isDigit then numberDocument false (c :: rest)
          else (.broken .absent .syntaxError, none)

/-- The items of an array after its bracket or after an item. -/
def items : (fuel : Nat) → (first : Bool) → List Char →
    List Document × Option Fault × Option (List Char)
  | 0, _, _ => ([], some .syntaxError, none)
  | fuel + 1, first, text =>
      let next (text : List Char) :=
        match value fuel text with
        | (item, none) => ([item], none, none)
        | (item, some rest) =>
            let (more, ending, rest) := items fuel false rest
            (item :: more, ending, rest)
      match skipSpace text with
      | [] => ([], some .unexpectedEnd, none)
      | ']' :: rest => ([], none, some rest)
      | c :: rest =>
          if first then next (c :: rest)
          else if c = ',' then
            match skipSpace rest with
            | ']' :: _ => ([], some .syntaxError, none)
            | rest => next rest
          else ([], some .syntaxError, none)

/-- The fields of an object after its brace or after a field. -/
def fields : (fuel : Nat) → (first : Bool) → List Char →
    List (Key × Document) × Option Fault × Option (List Char)
  | 0, _, _ => ([], some .syntaxError, none)
  | fuel + 1, first, text =>
      let next (text : List Char) : List (Key × Document) × Option Fault × Option (List Char) :=
        match textToken text with
        | (key, none) => ([(key, .broken .absent .unexpectedEnd)], none, none)
        | (key, some rest) =>
            match skipSpace rest with
            | [] => ([(key, .broken .absent .unexpectedEnd)], none, none)
            | ':' :: rest =>
                match value fuel rest with
                | (item, none) => ([(key, item)], none, none)
                | (item, some rest) =>
                    let (more, ending, rest) := fields fuel false rest
                    ((key, item) :: more, ending, rest)
            | _ => ([(key, .broken .absent .syntaxError)], none, none)
      match skipSpace text with
      | [] => ([], some .unexpectedEnd, none)
      | '\x7d' :: rest => ([], none, some rest)
      | '"' :: rest => if first then next rest else ([], some .syntaxError, none)
      | ',' :: rest =>
          if first then ([], some .syntaxError, none)
          else
            match skipSpace rest with
            | [] => ([missingField .unexpectedEnd], none, none)
            | '"' :: rest => next rest
            | _ => ([missingField .syntaxError], none, none)
      | _ => ([], some .syntaxError, none)

end

end Reader

/-- A text as far as it is JSON, and the fault if something follows the value. -/
def Document.read (text : String) : Document × Option Fault :=
  let text := text.toList
  match Reader.value (2 * text.length + 2) text with
  | (document, none) => (document, none)
  | (document, some rest) =>
      (document, if (Reader.skipSpace rest).isEmpty then none else some .syntaxError)

/-- The value a text stands for, if it is JSON through and through. -/
def parse? (text : String) : Option Json :=
  match Document.read text with
  | (document, none) => document.toJson?
  | (_, some _) => none

end Courier.Json
