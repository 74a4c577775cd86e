/-
# Courier.Ip -- IP addresses as text

An IPv4 address is four numbers from 0 to 255 without leading zeros.  An IPv6
address is eight groups of one to four hexadecimal digits; its last two groups may
be written as an IPv4 address, and `::` may stand once for one or more groups of
zero.
-/
import Courier.Text.Scan

namespace Courier.Ip

set_option autoImplicit false

/-- A number from 0 to 255 off the front of a text: the rest. -/
def octet (text : List Char) : Option (List Char) :=
  let digits := text.takeWhile Char.isDigit
  let value := digits.foldl (fun n c => n * 10 + (c.toNat - '0'.toNat)) 0
  let leading := digits.head? == some '0' && 1 < digits.length
  if 1 ≤ digits.length ∧ digits.length ≤ 3 ∧ value ≤ 255 ∧ leading = false then
    some (text.drop digits.length)
  else none

/-- An IPv4 address off the front of a text. -/
def quad (text : List Char) : Option (List Char) := do
  let text ← Text.mark '.' (← octet text)
  let text ← Text.mark '.' (← octet text)
  let text ← Text.mark '.' (← octet text)
  octet text

/-- A group of one to four hexadecimal digits off the front of a text. -/
def group (text : List Char) : Option (List Char) :=
  let digits := text.takeWhile Text.Hexadecimal.isDigit
  if 1 ≤ digits.length ∧ digits.length ≤ 4 then some (text.drop digits.length) else none

/-- How many groups were taken, whether an IPv4 address ended them, and the rest. -/
structure Groups where
  count : Nat
  quad : Bool
  rest : List Char

/-- Takes up to `room` groups; every group but the first of all comes after a colon. -/
def groups : (room : Nat) → (first : Bool) → (taken : Nat) → List Char → Groups
  | 0, _, taken, text => ⟨taken, false, text⟩
  | room + 1, first, taken, text =>
      let start := if first then some text else Text.mark ':' text
      match if 1 ≤ room then start.bind quad else none with
      | some rest => ⟨taken + 2, true, rest⟩
      | none =>
          match start.bind group with
          | some rest => groups room false (taken + 1) rest
          | none => ⟨taken, false, text⟩

def isV4 (text : List Char) : Bool := quad text == some []

def isV6 (text : List Char) : Bool :=
  let head := groups 8 true 0 text
  if head.count = 8 then head.rest.isEmpty
  else if head.quad then false
  else
    match head.rest with
    | ':' :: ':' :: rest => (groups (7 - head.count) true 0 rest).rest.isEmpty
    | _ => false

/-- Whether a text is an IP address. -/
def isAddress (text : List Char) : Bool := isV4 text || isV6 text

end Courier.Ip
