/-
# Courier.Text.Scan -- what is taken from a text

The small readers that all the others are made of: hexadecimal digits in either case, white
space of any script, the pieces of a text between marks, and unsigned whole numbers.

* `trim` cuts white space off both ends of a text;
* `pieces` cuts at every occurrence of a character, and so answers one piece more than
  there are occurrences; `upTo` cuts once, before the first of several characters;
* `Integer.read` reads digits, optionally after a plus sign, whose value is at most a given
  bound.  Of several faults the leftmost is told: digits are taken one by one, and either a
  character that is no digit or a value over the bound ends the reading.
-/

namespace Courier.Text

set_option autoImplicit false

namespace Hexadecimal

/-! ## Digits of base sixteen -/

/-- The value of a digit. -/
def digit? (c : Char) : Option Nat :=
  if c.isDigit then some (c.toNat - '0'.toNat)
  else if 'a' ≤ c ∧ c ≤ 'f' then some (c.toNat - 'a'.toNat + 10)
  else if 'A' ≤ c ∧ c ≤ 'F' then some (c.toNat - 'A'.toNat + 10)
  else none

def isDigit (c : Char) : Bool := (digit? c).isSome

end Hexadecimal

/-! ## White space -/

/-- White space. -/
def isBlank (c : Char) : Bool :=
  let n := c.toNat
  (0x09 ≤ n && n ≤ 0x0D) || n == 0x20 || n == 0x85 || n == 0xA0 || n == 0x1680
    || (0x2000 ≤ n && n ≤ 0x200A) || n == 0x2028 || n == 0x2029 || n == 0x202F
    || n == 0x205F || n == 0x3000

/-- The text without the blanks it starts with. -/
def trimStart (text : List Char) : List Char := text.dropWhile isBlank

/-- The text without the blanks it ends with. -/
def trimEnd (text : List Char) : List Char := (text.reverse.dropWhile isBlank).reverse

/-- The text without blanks at either end. -/
def trim (text : List Char) : List Char := trimEnd (trimStart text)

/-- `trim` on strings. -/
def trimmed (text : String) : String := String.ofList (trim text.toList)

/-! ## Marks -/

/-- The pieces of a text between marks. -/
def pieces (mark : Char) (text : List Char) : List (List Char) :=
  match text with
  | [] => [[]]
  | c :: rest =>
      let more := pieces mark rest
      if c = mark then [] :: more
      else
        match more with
        | [] => [[c]]
        | piece :: more => (c :: piece) :: more

/-- What comes before the first of some characters, and what comes from it on. -/
def upTo (marks : List Char) (text : List Char) : List Char × List Char :=
  text.span fun c => !marks.contains c

/-- A text without a character it begins with. -/
def mark (c : Char) : List Char → Option (List Char)
  | d :: rest => if d = c then some rest else none
  | [] => none

namespace Integer

/-! ## Whole numbers -/

/-- Why a text is no number in range. -/
inductive ReadError where
  | empty
  | invalidDigit
  | tooLarge
  deriving DecidableEq

def ReadError.message : ReadError → String
  | .empty => "cannot parse integer from empty string"
  | .invalidDigit => "invalid digit found in string"
  | .tooLarge => "number too large to fit in target type"

/-- The value of digits after a value already read. -/
def readDigits (bound : Nat) (value : Nat) : List Char → Except ReadError Nat
  | [] => .ok value
  | c :: rest =>
      if c.isDigit then
        let value := value * 10 + (c.toNat - '0'.toNat)
        if bound < value then .error .tooLarge
        else readDigits bound value rest
      else .error .invalidDigit

/-- Reads a whole number from zero to `bound`. -/
def read (bound : Nat) (text : List Char) : Except ReadError Nat :=
  match text with
  | [] => .error .empty
  | ['+'] => .error .invalidDigit
  | '+' :: digits => readDigits bound 0 digits
  | digits => readDigits bound 0 digits

end Integer

end Courier.Text
