/-
# Courier.Mail.Mailbox -- an address with an optional name

A mailbox is `user@domain`, or a display name and then `<user@domain>`.  The name is
a word and then words and dots; a word is an atom or a text in quotes.  Spaces and
tabs may stand before a word and before the bracket, and are passed over; other
blanks only around the whole.  Each part is read as far as it goes and never tried
again shorter.  What is read this way still has to be an `Address`.

Not every mailbox reads back as it is written (`Mailbox.render`): a user in quotes
loses them, and what is left of it may be no user.
-/
import Courier.Mail.Address
import Courier.Text.Scan

namespace Courier.Mail

set_option autoImplicit false

/-- An address with the name of who receives mail there. -/
structure Mailbox where
  name : Option (List Char)
  address : Address
  deriving DecidableEq

namespace Mailbox

/-- A blank or a tab. -/
def isSpace (c : Char) : Bool := c == ' ' || c == '\t'

def skipSpace (text : List Char) : List Char := text.dropWhile isSpace

/-- What spaces before a word leave of themselves in a name or between quotes. -/
def spacing (text : List Char) : List Char := (text.takeWhile isSpace).take 1

/-- A character of an atom: a letter, digit or mark, or anything beyond ASCII. -/
def isAtomChar (c : Char) : Bool :=
  c.isAlphanum || Address.atomMarks.contains c || 128 ≤ c.toNat

/-- One or more characters of an atom. -/
def atomText (text : List Char) : Option (List Char × List Char) :=
  let atom := text.takeWhile isAtomChar
  if atom.isEmpty then none else some (atom, text.dropWhile isAtomChar)

/-- An atom behind spaces. -/
def atom (text : List Char) : Option (List Char × List Char) := atomText (skipSpace text)

/-- More atoms, each after a dot. -/
def dottedMore : (fuel : Nat) → List Char → List Char × List Char
  | 0, text => ([], text)
  | fuel + 1, text =>
      match (Text.mark '.' text).bind atomText with
      | none => ([], text)
      | some (atom, rest) =>
          let (more, rest) := dottedMore fuel rest
          ('.' :: atom ++ more, rest)

/-- Atoms with dots between them, behind spaces. -/
def dottedAtoms (text : List Char) : Option (List Char × List Char) :=
  (atom text).map fun (first, rest) =>
    let (more, rest) := dottedMore rest.length rest
    (first ++ more, rest)

/-- A character that stands for itself between quotes. -/
def isQuotedChar (c : Char) : Bool :=
  let n := c.toNat
  n == 33 || (35 ≤ n && n ≤ 91) || (93 ≤ n && n ≤ 126) || 128 ≤ n
    || (1 ≤ n && n ≤ 8) || n == 11 || n == 12 || (14 ≤ n && n ≤ 31) || n == 127

/-- A character that may stand after a backslash. -/
def isEscapable (c : Char) : Bool :=
  let n := c.toNat
  (1 ≤ n && n ≤ 9) || n == 11 || n == 12 || (14 ≤ n && n ≤ 127)

/-- One character between quotes. -/
def quotedChar : List Char → Option (Char × List Char)
  | '\\' :: c :: rest => if isEscapable c then some (c, rest) else none
  | c :: rest => if isQuotedChar c then some (c, rest) else none
  | [] => none

/-- Characters between quotes; of spaces before one the first is kept. -/
def quotedChars : (fuel : Nat) → List Char → List Char × List Char
  | 0, text => ([], text)
  | fuel + 1, text =>
      match quotedChar (skipSpace text) with
      | none => ([], text)
      | some (c, rest) =>
          let (more, rest) := quotedChars fuel rest
          (spacing text ++ c :: more, rest)

/-- A text in quotes behind spaces, without the quotes. -/
def quotedText (text : List Char) : Option (List Char × List Char) := do
  let text ← Text.mark '"' (skipSpace text)
  let (content, text) := quotedChars text.length text
  let text ← Text.mark '"' (skipSpace text)
  some (content, text)

/-- A text in quotes, or an atom. -/
def word (text : List Char) : Option (List Char × List Char) := (quotedText text).or (atom text)

/-- A dot behind spaces. -/
def dot (text : List Char) : Option (List Char × List Char) :=
  (Text.mark '.' (skipSpace text)).map (['.'], ·)

/-- More words and dots. -/
def phraseMore : (fuel : Nat) → List Char → List Char × List Char
  | 0, text => ([], text)
  | fuel + 1, text =>
      match (word text).or (dot text) with
      | none => ([], text)
      | some (piece, rest) =>
          let (more, rest) := phraseMore fuel rest
          (spacing text ++ piece ++ more, rest)

/-- A display name. -/
def phrase (text : List Char) : Option (List Char × List Char) :=
  (word text).map fun (first, rest) =>
    let (more, rest) := phraseMore rest.length rest
    (first ++ more, rest)

/-- User and domain. -/
def spec (text : List Char) : Option ((List Char × List Char) × List Char) := do
  let (user, text) ← (dottedAtoms text).or (quotedText text)
  let text ← Text.mark '@' text
  let (domain, text) ← dottedAtoms text
  some ((user, domain), text)

/-- User and domain in angle brackets, behind spaces. -/
def angled (text : List Char) : Option ((List Char × List Char) × List Char) := do
  let text ← Text.mark '<' (skipSpace text)
  let (parts, text) ← spec text
  let text ← Text.mark '>' text
  some (parts, text)

/-- A display name, if there is one, and user and domain in angle brackets. -/
def named (text : List Char) : Option ((Option (List Char) × List Char × List Char) × List Char) :=
  let (name, text) := match phrase text with
    | some (name, rest) => (some name, rest)
    | none => (none, text)
  (angled text).map fun (parts, rest) => ((name, parts), rest)

/-- The parts of a mailbox and nothing else, blanks around it left out. -/
def parts? (text : List Char) : Option (Option (List Char) × List Char × List Char) :=
  let text := Text.trim text
  match (named text).or ((spec text).map fun (parts, rest) => ((none, parts), rest)) with
  | some (parts, []) => some parts
  | _ => none

/-- Reads a mailbox. -/
def read (text : List Char) : Except AddressError Mailbox :=
  match parts? text with
  | none => .error .invalidInput
  | some (name, user, domain) => (Address.ofParts user domain).map fun address => ⟨name, address⟩

/-! ## Writing -/

/-- A display name as it is written: in quotes unless it is atoms and spaces. -/
def renderName (name : List Char) : List Char :=
  if name.all fun c => isSpace c || isAtomChar c then name
  else
    let escape (c : Char) := if isSpace c || isQuotedChar c then [c] else ['\\', c]
    '"' :: name.flatMap escape ++ ['"']

/-- The mailbox as text. -/
def render (m : Mailbox) : List Char :=
  let address := m.address.user ++ '@' :: m.address.domain
  match m.name.map Text.trim with
  | none => address
  | some [] => address
  | some name => renderName name ++ ' ' :: '<' :: address ++ ['>']

/-- Whether a mailbox reads back once it is written. -/
def readsBack (m : Mailbox) : Bool := (read m.render).toOption.isSome

end Mailbox

end Courier.Mail
