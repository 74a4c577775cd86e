/-
# Courier.Timestamp.Rfc3339 -- timestamps as text

Writing is canonical: UTC, `T` and `Z`, and the fewest of 0, 3, 6 or 9 digits that
hold the fraction of a second.  Years outside `0000` to `9999` carry a sign.

Reading is lenient: numbers may have blanks before them and fewer digits than
usual, blanks may surround the marks between them, `T` may be a small letter or a
blank, a fraction may have any number of digits (nine count), and the zone is
`Z`, `UTC` or an offset below a day.  Of several faults the leftmost is told; a
date that does not exist is told last, and so is one that only its offset moves
beyond the years that are counted.
-/
import Courier.Text.Scan
import Courier.Timestamp

namespace Courier.Timestamp

set_option autoImplicit false

/-! ## Writing -/

/-- Decimal digits of `n`, padded with zeros to at least `width`. -/
def padded (width n : Nat) : String :=
  let digits := Nat.toDigits 10 n
  String.ofList (List.replicate (width - digits.length) '0' ++ digits)

/-- A year in four digits, or with its sign when it does not fit. -/
def renderYear (year : Int) : String :=
  if 0 ≤ year ∧ year ≤ 9999 then padded 4 year.toNat
  else (if year < 0 then "-" else "+") ++ padded 4 year.natAbs

/-- A fraction of a second in the fewest of 0, 3, 6 or 9 digits. -/
def renderFraction (nanos : Nat) : String :=
  if nanos = 0 then ""
  else if nanos % 1000000 = 0 then "." ++ padded 3 (nanos / 1000000)
  else if nanos % 1000 = 0 then "." ++ padded 6 (nanos / 1000)
  else "." ++ padded 9 nanos

/-- The timestamp as text. -/
def render (t : Timestamp) : String :=
  let date := t.date
  let second := t.secondOfDay % 60 + t.nanos / 1000000000
  renderYear date.year ++ "-" ++ padded 2 date.month ++ "-" ++ padded 2 date.day ++ "T"
    ++ padded 2 (t.secondOfDay / 3600) ++ ":" ++ padded 2 (t.secondOfDay / 60 % 60) ++ ":"
    ++ padded 2 second ++ renderFraction (t.nanos % 1000000000) ++ "Z"

/-! ## Reading -/

/-- Why a text is no timestamp. -/
inductive ReadError where
  | tooShort
  | invalid
  | outOfRange
  | trailing
  | impossible
  deriving DecidableEq

def ReadError.message : ReadError → String
  | .tooShort => "premature end of input"
  | .invalid => "input contains invalid characters"
  | .outOfRange => "input is out of range"
  | .trailing => "trailing input"
  | .impossible => "no possible date and time matching input"

/-- A reader takes something off the front of a text. -/
abbrev Reader (α : Type) := StateT (List Char) (Except ReadError) α

namespace Reader

def fail {α : Type} (e : ReadError) : Reader α := fun _ => .error e

/-- Skips blanks. -/
def blanks : Reader Unit := modify Text.trimStart

/-- One given character. -/
def mark (c : Char) : Reader Unit := fun text =>
  match text with
  | [] => .error .tooShort
  | d :: rest => if d = c then .ok ((), rest) else .error .invalid

/-- The value of decimal digits. -/
def valueOf (digits : List Char) : Nat :=
  digits.foldl (fun n c => n * 10 + (c.toNat - '0'.toNat)) 0

/-- One to `width` digits; all that follow when there is no width.  What has more
than 18 digits before the last is out of range. -/
def digits (width : Option Nat) : Reader (List Char) := fun text =>
  match text with
  | [] => .error .tooShort
  | c :: _ =>
      if c.isDigit then
        let run := text.takeWhile Char.isDigit
        let taken := match width with
          | none => run
          | some w => run.take w
        if 0x8000000000000000 ≤ valueOf taken then .error .outOfRange
        else .ok (taken, text.drop taken.length)
      else .error .invalid

/-- A number of one to `width` digits within bounds. -/
def number (width low high : Nat) : Reader Nat := do
  blanks
  let n := valueOf (← digits (some width))
  if low ≤ n ∧ n ≤ high then pure n else fail .outOfRange

/-- A year: up to four digits, or any number of them after a sign. -/
def year : Reader Int := do
  blanks
  let value : Int ← match (← get) with
    | '-' :: rest => do
        set rest
        pure (-(valueOf (← digits none) : Int))
    | '+' :: rest => do
        set rest
        pure (valueOf (← digits none) : Int)
    | _ => do pure (valueOf (← digits (some 4)) : Int)
  if -0x80000000 ≤ value ∧ value < 0x80000000 then pure value else fail .outOfRange

/-- An optional fraction of a second, in nanoseconds. -/
def fraction : Reader Nat := do
  match (← get) with
  | '.' :: rest => do
      set rest
      let taken ← digits (some 9)
      modify fun text => text.dropWhile Char.isDigit
      pure (valueOf taken * Nat.pow 10 (9 - taken.length))
  | _ => pure 0

/-- Two digits, without looking at what they mean. -/
def pair : Reader (Char × Char) := fun text =>
  match text with
  | a :: b :: rest => .ok ((a, b), rest)
  | [a] => if 128 ≤ a.toNat then .error .invalid else .error .tooShort
  | [] => .error .tooShort

/-- An offset of `hh` and `mm`, in seconds. -/
def offset : Reader Int := do
  let (h₁, h₂) ← pair
  if !(h₁.isDigit && h₂.isDigit) then fail .invalid
  modify fun text => text.dropWhile fun c => c == ':' || Text.isBlank c
  let (m₁, m₂) ← pair
  if !(m₁.isDigit && m₂.isDigit) then fail .invalid
  if '5' < m₁ then fail .outOfRange
  pure ((valueOf [h₁, h₂] * 3600 + valueOf [m₁, m₂] * 60 : Nat) : Int)

/-- The zone: `Z` or `UTC` in any case, or an offset with its sign. -/
def zone : Reader Int := do
  let text ← get
  if (text.take 3).map Char.toUpper = ['U', 'T', 'C'] then
    set (text.drop 3)
    pure 0
  else
    match text with
    | 'z' :: rest => do set rest; pure 0
    | 'Z' :: rest => do set rest; pure 0
    | '+' :: rest => do set rest; offset
    | '-' :: rest => do set rest; pure (-(← offset))
    | '\u2212' :: rest => do set rest; pure (-(← offset))
    | [] => fail .tooShort
    | _ => fail .invalid

/-- The letter between date and time. -/
def divider : Reader Unit := fun text =>
  match text with
  | [] => .error .tooShort
  | c :: rest => if c ∈ ['t', 'T', ' '] then .ok ((), rest) else .error .invalid

/-- A whole timestamp and nothing after it but blanks. -/
def timestamp : Reader Timestamp := do
  let y ← year
  blanks
  mark '-'
  let mo ← number 2 1 12
  blanks
  mark '-'
  let d ← number 2 1 31
  divider
  let h ← number 2 0 23
  blanks
  mark ':'
  let mi ← number 2 0 59
  blanks
  mark ':'
  let s ← number 2 0 60
  let nanos ← fraction
  blanks
  let shift ← zone
  blanks
  if !(← get).isEmpty then fail .trailing
  let date : Date := ⟨y, mo, d⟩
  if !date.isValid || 86400 ≤ shift.natAbs then fail .outOfRange
  let second := if s = 60 then 59 else s
  let nanos := if s = 60 then nanos + 1000000000 else nanos
  let t : Timestamp :=
    ⟨date.days * 86400 + ((h * 3600 + mi * 60 + second : Nat) : Int) - shift, nanos⟩
  if t.date.isValid then pure t else fail .impossible

end Reader

/-- Reads a timestamp. -/
def read (text : String) : Except ReadError Timestamp :=
  (Reader.timestamp.run text.toList).map (·.1)

end Courier.Timestamp
