/-
# Courier.Idna -- domain names of any script in ASCII

A domain name is brought into the form in which it is looked up: its characters are
mapped, the result normalised and cut at its dots, and every label that is not
ASCII written in Punycode behind `xn--`.  A label that already is in that form has
to decode to a normalised label.  There is no such form when a label begins with a
combining mark, holds a character that names may not hold, or reads ambiguously in
a name with right-to-left text.

Two ways of taking names are in use (`Reading`): the strict one also refuses
invisible joiners that make no difference, and Punycode that stands for plain ASCII;
the lenient one knows fewer characters.
-/
import Courier.Idna.Direction
import Courier.Idna.Joining
import Courier.Idna.Mapping
import Courier.Idna.Punycode
import Courier.Text.Normal
import Courier.Text.Scan

namespace Courier.Idna

set_option autoImplicit false

/-- The pieces of a text between its dots. -/
def labels (text : List Char) : List (List Char) := Text.pieces '.' text

/-- What begins a label that is written in Punycode. -/
def marker : List Char := ['x', 'n', '-', '-']

def isAscii (text : List Char) : Bool := text.all (·.toNat < 128)

/-- Whether a label may stand in a name. -/
def isValidLabel (reading : Reading) (label : List Char) : Bool :=
  !(label.head?).any isCombiningMark && label.all (isKept reading)
    && (reading = .lenient || Joining.shows label)

/-- What a label in Punycode stands for, if it is written as it should be. -/
def decodeLabel (reading : Reading) (label : List Char) : Option (List Char) :=
  (Punycode.decode label).filter fun decoded =>
    Text.normalized decoded == decoded && (reading = .lenient || !isAscii decoded)

/-- A label read back from Punycode if it is written in it; `none` when it is none. -/
def unicodeLabel (reading : Reading) (label : List Char) : Option (List Char) :=
  let read :=
    if marker.isPrefixOf label then decodeLabel reading (label.drop 4) else some label
  read.filter (isValidLabel reading)

/-- A label in ASCII. -/
def asciiLabel (label : List Char) : List Char :=
  if isAscii label then label else marker ++ Punycode.encode label

/-- A domain name in ASCII, if it has such a form. -/
def toAscii (reading : Reading) (domain : List Char) : Option (List Char) := do
  let mapped ← mapText? reading domain
  let read ← (labels (Text.normalized mapped)).mapM (unicodeLabel reading)
  if read.any Direction.turns && !read.all Direction.allows then none
  else some (['.'].intercalate (read.map asciiLabel))

end Courier.Idna
