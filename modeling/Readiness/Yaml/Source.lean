/-!
# Places in a YAML text

The text that is still to be read, with the line and the column where it begins, and the tests on
its first characters that tokens depend on.
-/

namespace Readiness.Yaml

/-- Whether the character is a blank within a line. -/
def isSpace (c : Char) : Bool := c == ' ' || c == '\t'

def isBreak (c : Char) : Bool :=
  c == '\n' || c == '\r' || c == '\u0085' || c == '\u2028' || c == '\u2029'

/-- Whether the character can stand in names of anchors, directives and tags. -/
def isNameChar (c : Char) : Bool := c.isAlphanum || c == '_' || c == '-'

/-- Whether a text may contain the character at all. -/
def isAllowed (c : Char) : Bool :=
  let n := c.toNat
  n == 9 || n == 10 || n == 13 || (0x20 ≤ n && n ≤ 0x7E) || n == 0x85 ||
    (0xA0 ≤ n && n != 0xFFFE && n != 0xFFFF)

/-- A place in a text. -/
structure Source where
  rest : List Char
  /-- How many characters come before. -/
  index : Nat
  line : Nat
  column : Nat

namespace Source

def start (text : List Char) : Source := ⟨text, 0, 0, 0⟩

def peek? (s : Source) (k : Nat) : Option Char := s.rest[k]?

def atEnd (s : Source) : Bool := s.rest.isEmpty

def next (s : Source) (c : Char) : Bool := s.rest.head? == some c

def nextSpace (s : Source) : Bool := s.rest.head?.any isSpace

def nextBreak (s : Source) : Bool := s.rest.head?.any isBreak

/-- Whether a blank, a line end or the end of the text stands `k` places further on. -/
def gapAt (s : Source) (k : Nat) : Bool :=
  match s.peek? k with
  | none => true
  | some c => isSpace c || isBreak c

/-- The place after the next character, which is no line end. -/
def skip (s : Source) : Source := ⟨s.rest.drop 1, s.index + 1, s.line, s.column + 1⟩

/-- The place after the next `n` characters, none of which is a line end. -/
def skipMany (s : Source) (n : Nat) : Source := ⟨s.rest.drop n, s.index + n, s.line, s.column + n⟩

/-- The line end that is next, as it counts in scalars, and the place after it. -/
def readBreak (s : Source) : List Char × Source :=
  match s.rest with
  | '\r' :: '\n' :: rest => (['\n'], ⟨rest, s.index + 2, s.line + 1, 0⟩)
  | c :: rest =>
    if !isBreak c then ([], s)
    else
      let text := if c == '\u2028' || c == '\u2029' then [c] else ['\n']
      (text, ⟨rest, s.index + 1, s.line + 1, 0⟩)
  | [] => ([], s)

/-- The place after the characters of the line that satisfy `p`. -/
def skipWhile (s : Source) (p : Char → Bool) : Source :=
  s.skipMany (s.rest.takeWhile fun c => p c && !isBreak c).length

/-- The place after the rest of the line, if it is a comment. -/
def skipComment (s : Source) : Source := if s.next '#' then s.skipWhile fun _ => true else s

/-- The place after the blanks, the comment and the line end that end a line, if nothing else is
left on the line. -/
def endLine? (s : Source) : Option Source :=
  let s := (s.skipWhile isSpace).skipComment
  if s.atEnd || s.nextBreak then some s.readBreak.2 else none

/-- Whether a line with three times the character begins here. -/
def marker (s : Source) (c : Char) : Bool :=
  s.column == 0 && s.rest.take 3 == [c, c, c] && s.gapAt 3

/-- Whether a mark for the beginning or the end of a document stands here. -/
def documentMark (s : Source) : Bool := s.marker '-' || s.marker '.'

end Source

end Readiness.Yaml
