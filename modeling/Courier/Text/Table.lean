/-
# Courier.Text.Table -- character data written as rows of hexadecimal numbers

Properties of characters come as tables of code point ranges.  A table is written
as text: rows are separated by blanks or line breaks and the numbers of a row by
commas, all in hexadecimal.  A row starts with the first and the last code point it is about
(`CharSet` also takes a single number for both); what follows is the row's data.

A long table is cut into blocks of rows.

Rows are sorted by code point and do not overlap, so a look-up bisects
(`Table.find?`).
-/

namespace Courier.Text

set_option autoImplicit false

/-- A range of code points with the data that holds for all of them. -/
structure Row where
  first : Nat
  last : Nat
  data : List Nat

/-- Rows sorted by code point. -/
abbrev Table := Array Row

namespace Table

/-- The value of a hexadecimal digit; zero for any other character. -/
def hexValue (c : Char) : Nat :=
  if '0' ≤ c ∧ c ≤ '9' then c.toNat - '0'.toNat
  else if 'A' ≤ c ∧ c ≤ 'F' then c.toNat - 'A'.toNat + 10
  else 0

/-- The row with some numbers, the last one first; without numbers there is none. -/
def row? (backwards : List Nat) : Option Row :=
  match backwards.reverse with
  | [] => none
  | [code] => some ⟨code, code, []⟩
  | first :: last :: data => some ⟨first, last, data⟩

/-- The rows in a text, after the numbers of a row under way, the last one first, and a
number under way. -/
def rowsFrom (numbers : List Nat) (current : Option Nat) : List Char → List Row
  | [] => (row? (current.toList ++ numbers)).toList
  | c :: rest =>
      if c = ' ' ∨ c = '\n' then (row? (current.toList ++ numbers)).toList ++ rowsFrom [] none rest
      else if c = ',' then rowsFrom (current.toList ++ numbers) none rest
      else rowsFrom numbers (some (current.getD 0 * 16 + hexValue c)) rest

/-- The rows in a text. -/
def rows (text : String) : List Row := rowsFrom [] none text.toList

/-- Reads a table from its text. -/
def ofText (text : String) : Table := (rows text).toArray

/-- Reads a table from its text, cut into blocks between rows. -/
def ofBlocks (blocks : List String) : Table := (blocks.flatMap rows).toArray

/-- The row for `code` among those at positions `low` up to, but not including, `high`. -/
def bisect (t : Table) (code low high : Nat) : Option Row :=
  if low < high then
    let middle := (low + high) / 2
    match t[middle]? with
    | none => none
    | some row =>
        if code < row.first then bisect t code low middle
        else if row.last < code then bisect t code (middle + 1) high
        else some row
  else none
termination_by high - low

/-- The row that `c` falls into. -/
def find? (t : Table) (c : Char) : Option Row := t.bisect c.toNat 0 t.size

end Table

/-- A set of characters, as rows without data. -/
structure CharSet where
  table : Table

namespace CharSet

def ofText (text : String) : CharSet := ⟨.ofText text⟩

def contains (s : CharSet) (c : Char) : Bool := (s.table.find? c).isSome

end CharSet

/-- A map from characters to texts.  A row's data are a step and a text: it maps
its first character to that text, and every further character in steps of that
width to the text whose first character is moved by the same amount. -/
structure CharMap where
  table : Table

namespace CharMap

def ofText (text : String) : CharMap := ⟨.ofText text⟩

def ofBlocks (blocks : List String) : CharMap := ⟨.ofBlocks blocks⟩

/-- The text that a row maps `code` to. -/
def apply (row : Row) (code : Nat) : Option (List Char) :=
  match row.data with
  | [] => none
  | step :: targets =>
      let offset := code - row.first
      if offset % step = 0 then
        match targets with
        | [] => some []
        | target :: rest => some (Char.ofNat (target + offset) :: rest.map Char.ofNat)
      else none

/-- The text that `c` maps to. -/
def find? (m : CharMap) (c : Char) : Option (List Char) :=
  (m.table.find? c).bind fun row => apply row c.toNat

end CharMap

/-- A number for every character, zero where the table has no row. -/
structure CharClass where
  table : Table

namespace CharClass

def ofText (text : String) : CharClass := ⟨.ofText text⟩

def ofBlocks (blocks : List String) : CharClass := ⟨.ofBlocks blocks⟩

def of (m : CharClass) (c : Char) : Nat := ((m.table.find? c).bind (·.data.head?)).getD 0

end CharClass

end Courier.Text
