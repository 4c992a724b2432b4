/-!
# Counting lines

A line ends at a break or at the end of the text. Breaks are the line feed, the carriage return,
alone or before a line feed, the vertical tab, the form feed, three information separators, the
next line character and the two Unicode separators.
-/

namespace Readiness

def isLineBreak (c : Char) : Bool :=
  c == '\n' || c == '\r' || c == '\x0b' || c == '\x0c' || c == '\x1c' || c == '\x1d' ||
    c == '\x1e' || c == '\u0085' || c == '\u2028' || c == '\u2029'

/-- The number of lines that end in the text; `opened` says whether the line that it begins in has
characters already. -/
def linesFrom : (opened : Bool) → List Char → Nat
  | opened, [] => if opened then 1 else 0
  | _, '\r' :: '\n' :: cs => 1 + linesFrom false cs
  | _, c :: cs => if isLineBreak c then 1 + linesFrom false cs else linesFrom true cs

/-- The number of lines of a text. -/
def lineCount (text : List Char) : Nat := linesFrom false text

end Readiness
