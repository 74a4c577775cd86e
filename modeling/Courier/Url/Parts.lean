/-
# Courier.Url.Parts -- what the parts of a URL stand for

A byte may be written as a percent sign and two hexadecimal digits; a percent sign without
them stands for itself (`Percent.decodeBytes`).  Settings stand between `&`, each a name and a
value with `=` between them, in which a plus sign stands for a blank (`Query.settings`).

A host in brackets is an IPv6 address.  Where the scheme is one of those that are known, any
other host is a domain name, brought into ASCII, or an IPv4 address if it ends in a number;
under other schemes it is taken as it stands.  An IPv4 address here is one to four numbers,
each decimal, octal behind a zero, or hexadecimal behind `0x`; the last stands for all the
bytes that are left.
-/
import Courier.Idna
import Courier.Ip
import Courier.Text.Scan
import Courier.Text.Utf8

namespace Courier.Url

set_option autoImplicit false

namespace Percent

/-! ## Percent signs -/

/-- The value of a byte that is a hexadecimal digit. -/
def digit? (b : UInt8) : Option Nat := Text.Hexadecimal.digit? (Char.ofNat b.toNat)

/-- The byte that two digits stand for. -/
def byte? (high low : UInt8) : Option UInt8 := do
  some (.ofNat ((← digit? high) * 16 + (← digit? low)))

/-- Replaces every percent sign with two digits by the byte it stands for. -/
def decodeBytes : List UInt8 → List UInt8
  | 0x25 :: high :: low :: rest =>
      match byte? high low with
      | some b => b :: decodeBytes rest
      | none => 0x25 :: decodeBytes (high :: low :: rest)
  | b :: rest => b :: decodeBytes rest
  | [] => []

/-- The bytes that a text stands for. -/
def decode (text : List Char) : List UInt8 := decodeBytes (Text.Utf8.encode text)

/-- The text that a text stands for, unless its bytes are none. -/
def decodeText (text : List Char) : Except Text.Utf8.Fault (List Char) :=
  Text.Utf8.decode (decode text)

end Percent

namespace Query

/-! ## Settings -/

/-- A name or a value as it is meant. -/
def decode (text : List Char) : List Char :=
  let spaced := text.map fun c => if c = '+' then ' ' else c
  Text.Utf8.decodeLossy (Percent.decode spaced)

/-- Settings by name, in order; what is empty between two `&` is none. -/
def settings (query : List Char) : List (List Char × List Char) :=
  ((Text.pieces '&' query).filter (!·.isEmpty)).map fun piece =>
    let (name, value) := Text.upTo ['='] piece
    (decode name, decode (value.drop 1))

end Query

/-! ## Hosts -/

/-- The name of a machine. -/
inductive Host where
  /-- A name. -/
  | name (text : List Char)
  /-- An IPv4 address by its value. -/
  | v4 (address : Nat)
  /-- An IPv6 address as it was written. -/
  | v6 (text : List Char)
  deriving DecidableEq

namespace Host

/-- Why a text is no host. -/
inductive ReadError where
  | empty
  /-- It has no form as a domain name in ASCII. -/
  | invalidName
  | invalidV4
  | invalidV6
  /-- It holds a character that no host holds. -/
  | invalidCharacter
  deriving DecidableEq

/-! ## IPv4 addresses -/

/-- Whether `c` is a digit of a base up to sixteen. -/
def isDigitOf (base : Nat) (c : Char) : Bool := (Text.Hexadecimal.digit? c).any (· < base)

/-- The value of digits of a base. -/
def valueOf (base : Nat) (digits : List Char) : Nat :=
  digits.foldl (fun n c => n * base + (Text.Hexadecimal.digit? c).getD 0) 0

/-- A number in one of the three notations. -/
def number? (text : List Char) : Option Nat :=
  let (base, digits) := match text with
    | '0' :: 'x' :: digits => (16, digits)
    | '0' :: 'X' :: digits => (16, digits)
    | '0' :: c :: digits => (8, c :: digits)
    | digits => (10, digits)
  if !text.isEmpty && digits.all (isDigitOf base) then some (valueOf base digits) else none

/-- The labels of a domain, without an empty one at its end. -/
def partsOf (domain : List Char) : List (List Char) :=
  let labels := Idna.labels domain
  if labels.getLast? == some [] then labels.dropLast else labels

/-- Whether a domain can only be meant as an IPv4 address. -/
def endsInNumber (domain : List Char) : Bool :=
  ((partsOf domain).getLast?).any fun last =>
    (!last.isEmpty && last.all Char.isDigit) || (number? last).isSome

/-- The address of which these are the numbers, the last one standing for all bytes that
are left of four. -/
def ofNumbers? (numbers : List Nat) : Option Nat := do
  let last ← numbers.getLast?
  let leading := numbers.dropLast
  if numbers.length ≤ 4 ∧ leading.all (· ≤ 255) ∧ last < Nat.pow 256 (4 - leading.length) then
    some (leading.foldl (fun n part => n * 256 + part) 0 * Nat.pow 256 (4 - leading.length) + last)
  else none

/-- The address that a domain ending in a number is. -/
def v4? (domain : List Char) : Option Nat := do ofNumbers? (← (partsOf domain).mapM number?)

/-! ## Names -/

/-- Characters of ASCII that no domain name in a URL holds. -/
def isDenied (c : Char) : Bool :=
  c.toNat ≤ 0x20 || c.toNat == 0x7F || "%#/:<>?@[\\]^|".toList.contains c

/-- Characters that a host taken as it stands does not hold. -/
def isForbidden (c : Char) : Bool := "\x00\t\n\r #/:<>?@[\\]^|".toList.contains c

/-- The domain name in ASCII that a text stands for. -/
def domain? (text : List Char) : Option (List Char) :=
  match Percent.decodeText text with
  | .error _ => none
  | .ok decoded => (Idna.toAscii .strict decoded).filter fun domain => !domain.any isDenied

/-- Reads a domain name or an IPv4 address. -/
def ofDomain (text : List Char) : Except ReadError Host :=
  match domain? text with
  | none => .error .invalidName
  | some domain =>
      if domain.isEmpty then .error .empty
      else if endsInNumber domain then
        match v4? domain with
        | some address => .ok (.v4 address)
        | none => .error .invalidV4
      else .ok (.name domain)

/-- Reads an IPv6 address, its opening bracket already taken. -/
def ofBracketed (text : List Char) : Except ReadError Host :=
  let ip := text.dropLast
  if text.getLast? == some ']' && Ip.isV6 ip then .ok (.v6 ip) else .error .invalidV6

/-- Reads a host under a known scheme. -/
def ofText (text : List Char) : Except ReadError Host :=
  match text with
  | '[' :: rest => ofBracketed rest
  | text => ofDomain text

/-- Reads a host under any other scheme. -/
def ofOpaque (text : List Char) : Except ReadError Host :=
  match text with
  | '[' :: rest => ofBracketed rest
  | text => if text.any isForbidden then .error .invalidCharacter else .ok (.name text)

end Host

end Courier.Url
