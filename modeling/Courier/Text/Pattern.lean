/-
# Courier.Text.Pattern -- which texts are search patterns

A pattern is made of characters, sets in brackets, groups in parentheses and escapes
behind a backslash, joined by bars and repeated by `*`, `+` and `?`.  It is read here
only to tell whether it is one (`Pattern.fault?`).

A pattern stands where a comma, an equals sign or a closing brace would end it.  So
nothing that is written in braces is ever complete, and an opening brace outside a set
is a fault.

`Modes` can be changed for a group or for what is left of it: without `unicode` a
pattern may only meet ASCII, and `verbose` leaves blanks and remarks out.  An edge of a
word can be found in ASCII alone.
-/
import Courier.Text.Alphanumeric
import Courier.Text.Scan

namespace Courier.Text.Pattern

set_option autoImplicit false

/-- How a part of a pattern is read. -/
structure Modes where
  unicode : Bool
  verbose : Bool

def Modes.usual : Modes := ⟨true, false⟩

/-- Blanks, and remarks from a number sign to the end of the line, left out. -/
def skipRemarks : (fuel : Nat) → List Char → List Char
  | 0, text => text
  | fuel + 1, text =>
      match text.dropWhile isBlank with
      | '#' :: rest => skipRemarks fuel (rest.dropWhile (· != '\n'))
      | text => text

/-- What is left of a text from the first character that means something. -/
def Modes.skip (m : Modes) (text : List Char) : List Char :=
  if m.verbose then skipRemarks text.length text else text

/-! ## Escapes -/

/-- What an escape stands for. -/
inductive Escape where
  /-- One character, by its number. -/
  | one (code : Nat)
  /-- Any of many characters. -/
  | many
  /-- A place between characters. -/
  | edge (ofWord : Bool)

/-- A character that is written by its number in so many digits. -/
def numbered? (digits : Nat) (text : List Char) : Option (Nat × List Char) := do
  let values ← (text.take digits).mapM Hexadecimal.digit?
  let code := values.foldl (16 * · + ·) 0
  if values.length = digits ∧ code.isValidChar then some (code, text.drop digits) else none

/-- The letters of the general categories. -/
def categories : List Char := ['C', 'L', 'M', 'N', 'P', 'S', 'Z']

/-- What stands behind a backslash. -/
def escape? (m : Modes) : List Char → Option (Escape × List Char)
  | [] => none
  | c :: rest =>
      let one (code : Nat) : Option (Escape × List Char) := some (.one code, rest)
      let number (digits : Nat) : Option (Escape × List Char) :=
        (numbered? digits rest).map fun (code, rest) => (.one code, rest)
      match c with
      | 'x' => number 2
      | 'u' => number 4
      | 'U' => number 8
      | 'p' | 'P' =>
          match rest with
          | letter :: rest =>
              if m.unicode && categories.contains letter.toUpper then some (.many, rest) else none
          | [] => none
      | 'd' | 's' | 'w' => some (.many, rest)
      | 'D' | 'S' | 'W' => if m.unicode then some (.many, rest) else none
      | 'a' => one 0x07
      | 't' => one 0x09
      | 'n' => one 0x0A
      | 'v' => one 0x0B
      | 'f' => one 0x0C
      | 'r' => one 0x0D
      | 'A' | 'z' => some (.edge false, rest)
      | 'b' | 'B' | '<' | '>' => some (.edge true, rest)
      | c => if c.toNat < 128 && !c.isAlphanum then one c.toNat else none

/-! ## Sets -/

def classNames : List String :=
  ["alnum", "alpha", "ascii", "blank", "cntrl", "digit", "graph", "lower", "print", "punct",
    "space", "upper", "word", "xdigit"]

/-- A named class behind its first bracket, `:name:]`. -/
def namedClass? (text : List Char) : Option (List Char) := do
  let text ← mark ':' text
  let text := (mark '^' text).getD text
  let (name, text) := upTo [':'] text
  let text ← (mark ':' text).bind (mark ']')
  if classNames.contains (String.ofList name) then some text else none

/-- One item of a set, with its number when it is one character. -/
def setItem? (m : Modes) : List Char → Option (Option Nat × List Char)
  | '\\' :: rest =>
      match escape? m rest with
      | some (.one code, rest) => if m.unicode || code < 128 then some (some code, rest) else none
      | some (.many, rest) => some (none, rest)
      | _ => none
  | c :: rest => if m.unicode || c.toNat < 128 then some (some c.toNat, rest) else none
  | [] => none

/-- Whether a hyphen with some text behind it joins two items. -/
def joins (m : Modes) (behind : List Char) : Bool :=
  match m.skip behind with
  | ']' :: _ | '-' :: _ => false
  | _ => true

/-- An item of a set, or all between two of them. -/
def setRange? (m : Modes) (text : List Char) : Option (List Char) := do
  let (first, text) ← setItem? m text
  match m.skip text with
  | '-' :: rest =>
      if joins m rest then
        let (last, rest) ← setItem? m (m.skip rest)
        if (← first) ≤ (← last) then some rest else none
      else some text
  | _ => some text

/-- The beginning of a set behind its bracket: a caret, and then hyphens or a closing
bracket that stand for themselves. -/
def setStart? (m : Modes) (text : List Char) : Option (List Char) :=
  let text := m.skip text
  let inverted := mark '^' text
  let text := m.skip (inverted.getD text)
  let items := text.dropWhile (· == '-')
  if inverted.isSome && !m.unicode then none
  else if items.length < text.length then some items
  else some ((mark ']' text).getD text)

/-- What follows a set; `depth` counts the sets around it. -/
def setRest? (m : Modes) : (fuel : Nat) → (depth : Nat) → List Char → Option (List Char)
  | 0, _, _ => none
  | fuel + 1, depth, text =>
      match m.skip text with
      | [] => none
      | '[' :: rest =>
          match namedClass? rest with
          | some rest => setRest? m fuel depth rest
          | none => (setStart? m rest).bind (setRest? m fuel (depth + 1))
      | ']' :: rest => if depth = 0 then some rest else setRest? m fuel (depth - 1) rest
      | '&' :: '&' :: rest | '-' :: '-' :: rest | '~' :: '~' :: rest => setRest? m fuel depth rest
      | text => (setRange? m text).bind (setRest? m fuel depth)

/-- What follows a set, read from behind its bracket. -/
def set? (m : Modes) (text : List Char) : Option (List Char) :=
  (setStart? m text).bind (setRest? m text.length 0)

/-! ## Groups -/

/-- How a parenthesis begins. -/
inductive Opening where
  /-- A group, read in some modes. -/
  | group (modes : Modes)
  | named (name : List Char)
  /-- No group, but modes for what is left of the one around it. -/
  | switch (modes : Modes)

def isNameChar (c : Char) : Bool := ['_', '.', '[', ']'].contains c || isAlphanumeric c

/-- The name of a group, up to its bracket; it begins with a letter or a low line. -/
def groupName? (text : List Char) : Option (List Char × List Char) := do
  let (name, text) := upTo ['>'] text
  let text ← mark '>' text
  let first ← name.head?
  let isFirst := first == '_' || (isAlphanumeric first && !first.isDigit)
  if isFirst && name.all isNameChar then some (name, text) else none

/-- The letters that change modes. -/
def modeLetters : List Char := ['i', 'm', 's', 'U', 'u', 'x', 'R']

/-- Modes as some letters change them, those behind a hyphen switched off. -/
def switched? (m : Modes) (letters : List Char) : Option Modes :=
  let (on, off) := upTo ['-'] letters
  let off := off.drop 1
  let value (letter : Char) (before : Bool) : Bool :=
    (before || on.contains letter) && !off.contains letter
  if letters.getLast? = some '-' || !(on ++ off).all modeLetters.contains then none
  else if (on ++ off).Nodup then some ⟨value 'u' m.unicode, value 'x' m.verbose⟩
  else none

/-- What stands behind an opening parenthesis. -/
def opening? (m : Modes) (text : List Char) : Option (Opening × List Char) :=
  match m.skip text with
  | '?' :: '=' :: _ | '?' :: '!' :: _ => none
  | '?' :: '<' :: '=' :: _ | '?' :: '<' :: '!' :: _ => none
  | '?' :: '<' :: rest | '?' :: 'P' :: '<' :: rest =>
      (groupName? rest).map fun (name, rest) => (.named name, rest)
  | '?' :: rest => do
      let (letters, rest) := upTo [':', ')'] rest
      let modes ← switched? m letters
      match rest with
      | ':' :: rest => some (.group modes, rest)
      | _ :: rest => if letters.isEmpty then none else some (.switch modes, rest)
      | [] => none
  | rest => some (.group m, rest)

/-! ## Patterns -/

/-- Why a text is no pattern. -/
inductive Fault where
  | malformed
  /-- It looks for the edge of a word beyond ASCII. -/
  | wordEdge
  deriving DecidableEq

def Fault.message : Fault → String
  | .malformed => "error building NFA"
  | .wordEdge => "unsupported regex feature for DFAs: cannot build DFAs for regexes with " ++
      "Unicode word boundaries; switch to ASCII word boundaries, or heuristically enable " ++
      "Unicode word boundaries or use a different regex engine"

/-- A pattern being read. -/
structure Reading where
  modes : Modes
  /-- The modes around each group that is open. -/
  around : List Modes
  /-- Names of groups. -/
  names : List (List Char)
  /-- Whether there is something to repeat. -/
  repeatable : Bool
  /-- Whether an edge of a word beyond ASCII was asked for. -/
  wordEdge : Bool

/-- A pattern of which nothing is read. -/
def Reading.initial : Reading := ⟨.usual, [], [], false, false⟩

namespace Reading

/-- Behind something that can be repeated. -/
def item (r : Reading) : Reading := { r with repeatable := true }

/-- Behind an opening parenthesis; `none` if its name is taken. -/
def opened? (r : Reading) : Opening → Option Reading
  | .group modes =>
      some { r with modes := modes, around := r.modes :: r.around, repeatable := false }
  | .named name =>
      if r.names.contains name then none
      else
        let around := r.modes :: r.around
        some { r with around := around, names := name :: r.names, repeatable := false }
  | .switch modes => some { r with modes := modes, repeatable := false }

/-- Behind an escape. -/
def escaped (r : Reading) : Escape → Option Reading
  | .one code => if r.modes.unicode || code < 128 then some r.item else none
  | .many => some r.item
  | .edge ofWord => some { r.item with wordEdge := r.wordEdge || (ofWord && r.modes.unicode) }

end Reading

/-- The reading at the end of a text, if it is a pattern that far. -/
def read? : (fuel : Nat) → Reading → List Char → Option Reading
  | 0, _, _ => none
  | fuel + 1, r, text =>
      match r.modes.skip text with
      | [] => if r.around.isEmpty then some r else none
      | '(' :: rest => do
          let (opening, rest) ← opening? r.modes rest
          read? fuel (← r.opened? opening) rest
      | ')' :: rest =>
          match r.around with
          | [] => none
          | modes :: around => read? fuel { r.item with modes := modes, around := around } rest
      | '|' :: rest => read? fuel { r with repeatable := false } rest
      | '*' :: rest | '+' :: rest | '?' :: rest => if r.repeatable then read? fuel r rest else none
      | '\x7b' :: _ => none
      | '[' :: rest => (set? r.modes rest).bind (read? fuel r.item)
      | '\\' :: rest => do
          let (escape, rest) ← escape? r.modes rest
          read? fuel (← r.escaped escape) rest
      | '.' :: rest => if r.modes.unicode then read? fuel r.item rest else none
      | _ :: rest => read? fuel r.item rest

/-- What is wrong with a text as a pattern, if anything is. -/
def fault? (text : List Char) : Option Fault :=
  match read? (text.length + 1) .initial text with
  | none => some .malformed
  | some r => if r.wordEdge then some .wordEdge else none

end Courier.Text.Pattern
