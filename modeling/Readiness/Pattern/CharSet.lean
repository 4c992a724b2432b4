import Readiness.Unicode.Class
import Readiness.Unicode.CaseFold

/-!
# Sets of characters

A set of characters as a pattern writes it: single characters, ranges, named classes and their
combinations. `CharSet.has` is membership.
-/

namespace Readiness

open Unicode

/-- A set of characters. -/
inductive CharSet where
  /-- No character. -/
  | none
  /-- Exactly one character. -/
  | one (c : Char)
  /-- The characters from `lo` to `hi`; no character when `hi` comes before `lo`. -/
  | range (lo hi : Char)
  /-- The characters with a property. -/
  | having (p : Char → Bool)
  /-- The members of either set. -/
  | union (a b : CharSet)
  /-- The members of both sets. -/
  | inter (a b : CharSet)
  /-- The characters that are not members. -/
  | compl (a : CharSet)
  /-- The members and their case variants. -/
  | folded (a : CharSet)
  /-- The members and the other cases of the ASCII letters among them. -/
  | asciiFolded (a : CharSet)

namespace CharSet

/-- Both cases of an ASCII letter, and any other character alone. -/
def asciiCases (c : Char) : List Char := if c.isAlpha then [c.toLower, c.toUpper] else [c]

def has : CharSet → Char → Bool
  | .none, _ => false
  | .one d, c => c == d
  | .range lo hi, c => lo ≤ c && c ≤ hi
  | .having p, c => p c
  | .union a b, c => a.has c || b.has c
  | .inter a b, c => a.has c && b.has c
  | .compl a, c => !a.has c
  | .folded a, c => (caseVariants c).any a.has
  | .asciiFolded a, c => (asciiCases c).any a.has

/-- The members of `a` that are not members of `b`. -/
def diff (a b : CharSet) : CharSet := .inter a (.compl b)

/-- The members of exactly one of the sets. -/
def symmDiff (a b : CharSet) : CharSet := .union (a.diff b) (b.diff a)

def ofList (cs : List Char) : CharSet := cs.foldr (fun c s => .union (.one c) s) .none

/-- Whether some character from U+0080 to U+00FF is a member. -/
def passesAscii (a : CharSet) : Bool := (List.range 128).any fun n => a.has (Char.ofNat (128 + n))

end CharSet

end Readiness
