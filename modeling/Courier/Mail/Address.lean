/-
# Courier.Mail.Address -- email addresses

An address is what stands before and after the last `@` of a text.

The user part is dot-separated atoms of alphanumerics of any script, a few marks and
a few other characters (`isPairOfBytes`), or a quoted text; it has 1 to 64 bytes.
The domain is a text in brackets, or dot-separated labels of at most 63 bytes that
begin and end with an alphanumeric, 1 to 254 bytes in all; or an IP address, bare or
in brackets; or it is one of these in its ASCII form.

The user part is looked at first, so of two faults it is the one that is told.
-/
import Courier.Idna
import Courier.Ip
import Courier.Text.Alphanumeric
import Courier.Text.Utf8

namespace Courier.Mail

set_option autoImplicit false

/-- Why a text is no address. -/
inductive AddressError where
  /-- It has no `@`. -/
  | missingParts
  | invalidUser
  | invalidDomain
  /-- It is no mailbox at all. -/
  | invalidInput
  deriving DecidableEq

def AddressError.message : AddressError → String
  | .missingParts => "Missing domain or user"
  | .invalidUser => "Invalid email user"
  | .invalidDomain => "Invalid email domain"
  | .invalidInput => "Invalid input"

namespace Address

/-- Marks that may stand in an atom. -/
def atomMarks : List Char :=
  ['!', '#', '$', '%', '&', '\'', '*', '+', '-', '/', '=', '?', '^', '_', '\x60', '\x7b', '|',
    '\x7d', '~']

/-- Whether a character's number, written as two bytes, is itself a character in UTF-8.
Such characters may stand in atoms, between quotes and between brackets. -/
def isPairOfBytes (c : Char) : Bool :=
  let lead := c.toNat / 0x100
  let tail := c.toNat % 0x100
  0xC2 ≤ lead && lead ≤ 0xDF && 0x80 ≤ tail && tail ≤ 0xBF

def isAtomChar (c : Char) : Bool :=
  Text.isAlphanumeric c || atomMarks.contains c || isPairOfBytes c

/-- Characters that may stand between quotes, on their own or after a backslash. -/
def isQuotedContent : List Char → Bool
  | [] => true
  | '\\' :: c :: rest => decide (0x21 ≤ c.toNat ∧ c.toNat ≤ 0x7E) && isQuotedContent rest
  | ['\\'] => false
  | c :: rest =>
      (c == ' ' || c == '\t' || (decide (0x21 ≤ c.toNat ∧ c.toNat ≤ 0x7E) && c != '"')
          || isPairOfBytes c)
        && isQuotedContent rest

/-- A text between two quotes. -/
def isQuoted (user : List Char) : Bool :=
  user.head? == some '"' && user.getLast? == some '"'

/-- Whether a text can be the user part. -/
def isUser (user : List Char) : Bool :=
  decide (1 ≤ Text.Utf8.byteLength user ∧ Text.Utf8.byteLength user ≤ 64) &&
    if isQuoted user then
      decide (2 < user.length) && isQuotedContent (user.tail.dropLast)
    else (Idna.labels user).all fun atom => !atom.isEmpty && atom.all isAtomChar

/-- Whether a text can be one label of a domain. -/
def isLabel (label : List Char) : Bool :=
  (label.head?).any Text.isAlphanumeric && (label.getLast?).any Text.isAlphanumeric
    && decide (Text.Utf8.byteLength label ≤ 63) && label.all isAtomChar

/-- What stands between brackets, if a text is in brackets. -/
def bracketed? (text : List Char) : Option (List Char) :=
  if text.head? == some '[' && text.getLast? == some ']' && 2 ≤ text.length then
    some text.tail.dropLast
  else none

/-- A character that may stand in a domain in brackets. -/
def isLiteralChar (c : Char) : Bool :=
  let n := c.toNat
  (33 ≤ n && n ≤ 90) || (94 ≤ n && n ≤ 126) || isPairOfBytes c

/-- Whether a text is a domain by name or in brackets. -/
def isName (domain : List Char) : Bool :=
  decide (1 ≤ Text.Utf8.byteLength domain ∧ Text.Utf8.byteLength domain ≤ 254) &&
    match bracketed? domain with
    | some literal => literal.all isLiteralChar
    | none => (Idna.labels domain).all isLabel

/-- Whether a text is a domain as it stands. -/
def isPlainDomain (domain : List Char) : Bool :=
  isName domain || Ip.isAddress ((bracketed? domain).getD domain)

/-- Whether a text can be the domain. -/
def isDomain (domain : List Char) : Bool :=
  isPlainDomain domain || (Idna.toAscii .strict domain).any isPlainDomain

end Address

/-- An email address. -/
structure Address where
  user : List Char
  domain : List Char
  deriving DecidableEq

namespace Address

/-- An address of two given parts. -/
def ofParts (user domain : List Char) : Except AddressError Address :=
  if !isUser user then .error .invalidUser
  else if !isDomain domain then .error .invalidDomain
  else .ok ⟨user, domain⟩

/-- What stands before and after the last `@`. -/
def split? (text : List Char) : Option (List Char × List Char) :=
  let domain := (text.reverse.takeWhile (· != '@')).reverse
  if domain.length < text.length then
    some (text.take (text.length - domain.length - 1), domain)
  else none

/-- Reads an address. -/
def read (text : List Char) : Except AddressError Address :=
  match split? text with
  | none => .error .missingParts
  | some (user, domain) => ofParts user domain

end Address

end Courier.Mail
