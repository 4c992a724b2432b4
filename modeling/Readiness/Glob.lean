/-!
# Exclusion globs

A glob describes whole paths. `?` stands for one character and `*` for any text, the separator
included; a component `**` stands for nothing, for any text up to a separator, or for all the
rest; brackets hold a set of characters.

* `Glob.parse` reads a glob or says what is wrong and where.
* `Glob.covers` is whether a path is of the form of a glob.
-/

namespace Readiness

/-- A member of a bracketed set. -/
inductive GlobItem where
  | one (c : Char)
  | range (lo hi : Char)

/-- Whether the character is the item or lies in it. -/
def GlobItem.has : GlobItem → Char → Bool
  | .one d, c => c == d
  | .range lo hi, c => lo ≤ c && c ≤ hi

/-- A part of a glob. -/
inductive GlobToken where
  /-- The character itself. -/
  | char (c : Char)
  /-- Any one character. -/
  | any
  /-- Any text. -/
  | many
  /-- Any number of leading components. -/
  | deep
  /-- One character of the set, or outside it if negated. -/
  | set (negated : Bool) (items : List GlobItem)

/-- Whether the character fits a part that stands for one character. -/
def GlobToken.accepts : GlobToken → Char → Bool
  | .char d, c => c == d
  | .any, _ => true
  | .many, _ => false
  | .deep, _ => false
  | .set negated items, c => items.any (·.has c) != negated

/-- What is wrong with a glob. -/
inductive GlobFaultKind where
  /-- More than two stars in a row. -/
  | wildcards
  /-- Two stars that are not a whole component. -/
  | recursive
  /-- A bracket without its end. -/
  | range

/-- A fault of a glob: its kind and the index of the character where it shows. -/
structure GlobFault where
  position : Nat
  kind : GlobFaultKind

def GlobFault.message (e : GlobFault) : String :=
  let text := match e.kind with
    | .wildcards => "wildcards are either regular \x60*\x60 or recursive \x60**\x60"
    | .recursive => "recursive wildcards must form a single path component"
    | .range => "invalid range pattern"
  "Pattern syntax error near position " ++ toString e.position ++ ": " ++ text

/-- A glob: its source and its parts. -/
structure Glob where
  source : String
  tokens : List GlobToken

namespace Glob

/-- The members of a bracketed set: ranges `x-y` and single characters. -/
def items : List Char → List GlobItem
  | x :: '-' :: y :: cs => .range x y :: items cs
  | c :: cs => .one c :: items cs
  | [] => []

/-- The set after an opening bracket, and the text after its end. A closing bracket in the first
place of a set is a member of it. -/
def readSet : List Char → Option (GlobToken × List Char)
  | '!' :: c :: cs => finish true c cs
  | '!' :: [] => none
  | c :: cs => finish false c cs
  | [] => none
where
  /-- The set whose first member begins with `c`. -/
  finish (negated : Bool) (c : Char) (cs : List Char) : Option (GlobToken × List Char) :=
    match cs.dropWhile (· != ']') with
    | [] => none
    | _ :: after => some (.set negated (items (c :: cs.takeWhile (· != ']'))), after)

/-- The part for two stars at index `i` after the character `prev`, with the text after them. -/
def readDeep (i : Nat) (prev : Option Char) (cs : List Char) :
    Except GlobFault (GlobToken × List Char) :=
  if prev.any (· != '/') then .error ⟨i - 1, .recursive⟩
  else match cs with
    | [] => .ok (.deep, [])
    | '/' :: after => .ok (.deep, after)
    | _ => .error ⟨i + 2, .recursive⟩

/-- The part that the text `c :: cs` at index `i` begins with, and the text after it. -/
def readToken (i : Nat) (prev : Option Char) (c : Char) (cs : List Char) :
    Except GlobFault (GlobToken × List Char) :=
  match c with
  | '?' => .ok (.any, cs)
  | '*' =>
    match cs with
    | '*' :: '*' :: _ => .error ⟨i + 2, .wildcards⟩
    | '*' :: after => readDeep i prev after
    | _ => .ok (.many, cs)
  | '[' =>
    match readSet cs with
    | some r => .ok r
    | none => .error ⟨i, .range⟩
  | c => .ok (.char c, cs)

/-- The parts of the text at index `i` after the character `prev`. -/
def readTokens : (fuel i : Nat) → (prev : Option Char) → List Char →
    Except GlobFault (List GlobToken)
  | 0, _, _, _ => .ok []
  | _, _, _, [] => .ok []
  | fuel + 1, i, prev, c :: cs => do
    let (token, after) ← readToken i prev c cs
    let used := (c :: cs).length - after.length
    let rest ← readTokens fuel (i + used) ((c :: cs)[used - 1]?) after
    .ok (token :: rest)

def parse (source : String) : Except GlobFault Glob := do
  let cs := source.toList
  .ok ⟨source, ← readTokens (cs.length + 1) 0 none cs⟩

/-- All ends of a text, the whole of it first. -/
def suffixes : List Char → List (List Char)
  | [] => [[]]
  | c :: cs => (c :: cs) :: suffixes cs

/-- The texts that follow the separators of a text. -/
def afterSeparators : List Char → List (List Char)
  | [] => []
  | c :: cs => if c == '/' then cs :: afterSeparators cs else afterSeparators cs

/-- Whether the text is of the form of the parts. -/
def fits : List GlobToken → List Char → Bool
  | [], cs => cs.isEmpty
  | .many :: ts, cs => (suffixes cs).any (fits ts)
  | .deep :: ts, cs => fits ts cs || (afterSeparators cs).any (fits ts) || fits ts []
  | _ :: _, [] => false
  | t :: ts, c :: cs => t.accepts c && fits ts cs

/-- Whether the path is of the form of the glob. -/
def covers (g : Glob) (path : String) : Bool := fits g.tokens path.toList

end Glob

end Readiness
