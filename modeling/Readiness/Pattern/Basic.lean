import Readiness.Pattern.CharSet

/-!
# Patterns

A pattern describes pieces of text, from places in a text and conditions on them.

* `Cursor` is a place in a text.
* `Assertion` is a condition on a place.
* `Pattern` describes pieces of text.
-/

namespace Readiness

open Unicode

/-- A place in a text: how many characters precede it, the last of them, and the text after it. -/
structure Cursor where
  offset : Nat
  before : Option Char
  rest : List Char

/-- The text from one cursor up to a later one. -/
def Cursor.textTo (c d : Cursor) : List Char := c.rest.take (d.offset - c.offset)

/-- Where a place lies with respect to words. -/
inductive WordEdge where
  /-- A word begins or ends here. -/
  | edge
  /-- No word begins or ends here. -/
  | noEdge
  /-- A word begins here. -/
  | start
  /-- A word ends here. -/
  | stop
  /-- No word character comes before. -/
  | startHalf
  /-- No word character comes after. -/
  | stopHalf

/-- A condition on the characters on both sides of a place. -/
inductive Assertion where
  | textStart
  | textEnd
  | lineStart
  | lineEnd
  /-- As `lineStart`, where a carriage return, alone or before a line feed, breaks lines too. -/
  | anyLineStart
  | anyLineEnd
  /-- A condition on words, whose characters are those of `word`. -/
  | words (e : WordEdge) (word : Char → Bool)

namespace Assertion

/-- Whether the condition holds between the two characters; `none` stands for an end of the text. -/
def holds : Assertion → (before after : Option Char) → Bool
  | .textStart, b, _ => b.isNone
  | .textEnd, _, a => a.isNone
  | .lineStart, b, _ => b.isNone || b == some '\n'
  | .lineEnd, _, a => a.isNone || a == some '\n'
  | .anyLineStart, b, a => b.isNone || b == some '\n' || (b == some '\r' && a != some '\n')
  | .anyLineEnd, b, a => a.isNone || a == some '\r' || (a == some '\n' && b != some '\r')
  | .words e word, b, a =>
    let b := b.any word
    let a := a.any word
    match e with
    | .edge => b != a
    | .noEdge => b == a
    | .start => !b && a
    | .stop => b && !a
    | .startHalf => !b
    | .stopHalf => !a

end Assertion

/-- A pattern for text. -/
inductive Pattern where
  /-- The empty text. -/
  | empty
  /-- One character of the set. -/
  | char (set : CharSet)
  /-- The empty text at a place where the condition holds. -/
  | assert (a : Assertion)
  /-- A match of `p` followed by a match of `q`. -/
  | seq (p q : Pattern)
  /-- A match of `p`, or else a match of `q`. -/
  | alt (p q : Pattern)
  /-- At least `min` and at most `max` matches of `p` in a row, as many as possible if `greedy`
  and as few as possible otherwise. -/
  | iter (min : Nat) (max : Option Nat) (greedy : Bool) (p : Pattern)

namespace Pattern

/-- Whether a match may be empty somewhere. -/
def isNullable : Pattern → Bool
  | .empty => true
  | .char _ => false
  | .assert _ => true
  | .seq p q => p.isNullable && q.isNullable
  | .alt p q => p.isNullable || q.isNullable
  | .iter min _ _ p => min == 0 || p.isNullable

/-! ## Building patterns -/

/-- One after another, from the list of them with the last one first. -/
def seqReversed : List Pattern → Pattern
  | [] => .empty
  | [p] => p
  | p :: ps => .seq (seqReversed ps) p

/-- One or another, the earlier preferred, from the list of them with the last one first. -/
def altReversed : List Pattern → Pattern
  | [] => .empty
  | [p] => p
  | p :: ps => .alt (altReversed ps) p

/-- One after another. -/
def sequence (ps : List Pattern) : Pattern := seqReversed ps.reverse

def text (s : List Char) : Pattern := sequence (s.map fun c => .char (.one c))

/-- As many as possible, or none. -/
def many (p : Pattern) : Pattern := .iter 0 none true p

/-- As many as possible, at least one. -/
def manyOne (p : Pattern) : Pattern := .iter 1 none true p

/-- How much a pattern weighs when all bounded repetitions are written out. A class weighs as much
as a single character, however many characters it has, so this is no more than an estimate of the
resources that a search for the pattern needs. -/
def weight : Pattern → Nat
  | .empty => 1
  | .char _ => 1
  | .assert _ => 1
  | .seq p q => p.weight + q.weight
  | .alt p q => p.weight + q.weight + 1
  | .iter min max _ p => (max.getD (min + 1)) * p.weight + 1

end Pattern

end Readiness
