import Readiness.Unicode.Category
import Readiness.Unicode.Derived

/-!
# Character classes

The classes that scanning rests on: word characters, decimal digits, white space and alphanumeric
characters. Each decides the ASCII characters directly and looks the others up.
-/

namespace Readiness.Unicode

/-- An ASCII letter, digit or underscore. -/
def isAsciiWord (c : Char) : Bool := c.isAlphanum || c == '_'

/-- The blank characters: tab to carriage return, space, and the separators beyond ASCII. Zero
width spaces and the information separators are not blank. -/
def isBlank (c : Char) : Bool :=
  let n := c.toNat
  (9 ≤ n && n ≤ 13) || n == 32 || n == 0x85 || n == 0xA0 || n == 0x1680 ||
    (0x2000 ≤ n && n ≤ 0x200A) || n == 0x2028 || n == 0x2029 || n == 0x202F || n == 0x205F ||
    n == 0x3000

def isAlphabetic (c : Char) : Bool :=
  if c.toNat < 128 then c.isAlpha else alphabetic.has c

/-- Characters with a numeric category: decimal digits, letterlike numbers and others such as
superscripts and fractions. -/
def isNumeric (c : Char) : Bool :=
  if c.toNat < 128 then c.isDigit
  else decimalNumber.has c || letterNumber.has c || otherNumber.has c

/-- Alphabetic or numeric characters. Combining marks and connectors are not among them. -/
def isAlphanumeric (c : Char) : Bool := isAlphabetic c || isNumeric c

/-- Decimal digits of any script. -/
def isDecimalDigit (c : Char) : Bool :=
  if c.toNat < 128 then c.isDigit else decimalNumber.has c

def isMark (c : Char) : Bool := nonspacingMark.has c || spacingMark.has c || enclosingMark.has c

def isJoinControl (c : Char) : Bool := c == '\u200C' || c == '\u200D'

/-- Word characters: alphabetic characters, marks, decimal digits, connectors such as the
underscore, and joiners. -/
def isWord (c : Char) : Bool :=
  if c.toNat < 128 then isAsciiWord c
  else alphabetic.has c || isMark c || decimalNumber.has c || connectorPunctuation.has c ||
    isJoinControl c

end Readiness.Unicode
