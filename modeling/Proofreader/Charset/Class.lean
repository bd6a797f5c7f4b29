import Proofreader.Charset.Property

/-!
# Classes with a short name

The sets behind `\d`, `\s`, `\w` and the dot, and the named classes of brackets (`[:alpha:]`).  The
first three come in two readings: all of Unicode, or ASCII alone.
-/

set_option autoImplicit false

namespace Proofreader
namespace Charset

/-- Line feed. -/
def lineFeed : Charset := single '\n'

/-- Carriage return and line feed. -/
def lineEnds : Charset := union (single '\r') lineFeed

/-- Characters of words: letters and their marks, digits, connectors and joiners. -/
def word : Charset := unionAll [alphabetic, decimalNumber, mark, connectorPunctuation, joinControl]

/-- The ASCII characters of words. -/
def asciiWord : Charset := bounds [0x30, 0x3A, 0x41, 0x5B, 0x5F, 0x60, 0x61, 0x7B]

/-- The ASCII digits. -/
def asciiDigit : Charset := range 0x30 0x39

/-- The ASCII blanks, the vertical tab included. -/
def asciiSpace : Charset := bounds [0x09, 0x0E, 0x20, 0x21]

/-- The named classes of brackets. -/
def named : List (String × Charset) := [
  ("alnum", bounds [0x30, 0x3A, 0x41, 0x5B, 0x61, 0x7B]),
  ("alpha", bounds [0x41, 0x5B, 0x61, 0x7B]),
  ("ascii", range 0 0x7F),
  ("blank", bounds [0x09, 0x0A, 0x20, 0x21]),
  ("cntrl", bounds [0x00, 0x20, 0x7F, 0x80]),
  ("digit", asciiDigit),
  ("graph", range 0x21 0x7E),
  ("lower", range 0x61 0x7A),
  ("print", range 0x20 0x7E),
  ("punct", bounds [0x21, 0x30, 0x3A, 0x41, 0x5B, 0x61, 0x7B, 0x7F]),
  ("space", asciiSpace),
  ("upper", range 0x41 0x5A),
  ("word", asciiWord),
  ("xdigit", bounds [0x30, 0x3A, 0x41, 0x47, 0x61, 0x67])]

/-- The named class of brackets with a given name, if there is one. -/
def findNamed (name : String) : Option Charset :=
  (named.find? (·.1 == name)).map (·.2)

/-- A blank: any character with the property White_Space. -/
def isBlank (c : Char) : Bool := whiteSpace.contains c

end Charset
end Proofreader
