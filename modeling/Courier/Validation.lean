/-
# Courier.Validation -- what a request must look like

The recipient has to look like an email address, the subject has 1 to 255
characters and the body at least one; lengths are those of the raw text.

The rule for addresses is its own (`isEmail`), not that of `Mail.Address`: user and
domain are ASCII and have at most 64 and 255 characters; a domain is labels of
letters, digits and inner hyphens, or anything that ends in an IP address in
brackets, or has such a form in ASCII.
-/
import Courier.Idna
import Courier.Ip
import Courier.Notification

namespace Courier.Validation

set_option autoImplicit false

/-- What is wrong with a field. -/
inductive Violation where
  | email
  /-- The length is out of bounds. -/
  | length (least : Nat) (most : Option Nat)
  deriving DecidableEq

/-- The field a violation is about. -/
inductive Field where
  | recipient
  | subject
  | body
  deriving DecidableEq

def Field.name : Field → String
  | .recipient => "to"
  | .subject => "subject"
  | .body => "body"

def Violation.code : Violation → String
  | .email => "email"
  | .length .. => "length"

/-- Marks that may stand in the user part. -/
def userMarks : List Char :=
  ['.', '!', '#', '$', '%', '&', '\'', '*', '+', '/', '=', '?', '^', '_', '\x60', '\x7b', '|',
    '\x7d', '~', '-']

def isUserChar (c : Char) : Bool := c.isAlphanum || userMarks.contains c

/-- A label of letters, digits and inner hyphens, 1 to 63 characters. -/
def isLabel (label : List Char) : Bool :=
  decide (1 ≤ label.length ∧ label.length ≤ 63) && label.all (fun c => c.isAlphanum || c == '-')
    && (label.head?).any Char.isAlphanum && (label.getLast?).any Char.isAlphanum

/-- A character that may stand in an IP address. -/
def isIpChar (c : Char) : Bool := Text.Hexadecimal.isDigit c || c == ':' || c == '.'

/-- Whether a text ends in an IP address in brackets. -/
def endsInIp (domain : List Char) : Bool :=
  match domain.reverse with
  | ']' :: backwards =>
      let ip := (backwards.takeWhile isIpChar).reverse
      (backwards.dropWhile isIpChar).head? == some '[' && Ip.isAddress ip
  | _ => false

def isPlainDomain (domain : List Char) : Bool :=
  (Idna.labels domain).all isLabel || endsInIp domain

def isDomain (domain : List Char) : Bool :=
  isPlainDomain domain || (Idna.toAscii .lenient domain).any isPlainDomain

/-- Whether a text looks like an email address. -/
def isEmail (text : List Char) : Bool :=
  let domain := (text.reverse.takeWhile (· != '@')).reverse
  if domain.length < text.length then
    let user := text.take (text.length - domain.length - 1)
    decide (user.length ≤ 64 ∧ domain.length ≤ 255)
      && !user.isEmpty && user.all isUserChar && isDomain domain
  else false

/-- Whether a text's length is within bounds. -/
def withinLength (least : Nat) (most : Option Nat) (text : List Char) : Bool :=
  decide (least ≤ text.length) && most.all fun m => decide (text.length ≤ m)

/-- The violation of a length rule, if there is one. -/
def lengthViolation (field : Field) (least : Nat) (most : Option Nat) (text : String) :
    List (Field × Violation) :=
  if withinLength least most text.toList then [] else [(field, .length least most)]

/-- Everything that is wrong with a request. -/
def violations (r : Notification.Request) : List (Field × Violation) :=
  (if isEmail r.recipient.toList then [] else [(.recipient, .email)])
    ++ lengthViolation .subject 1 (some 255) r.subject
    ++ lengthViolation .body 1 none r.body

end Courier.Validation
