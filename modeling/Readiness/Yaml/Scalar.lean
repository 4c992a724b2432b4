import Readiness.Yaml.Source

/-!
# YAML scalars

Scalars as they are written: plain, in quotes, or as blocks of lines.

* `readPlain` reads a plain scalar; it ends before a comment, a key mark or a lesser indentation.
* `readQuoted` reads a scalar in quotes.
* `readBlock` reads a literal or a folded block.
-/

namespace Readiness.Yaml

/-! ## Gaps between words -/

/-- The blanks and line ends between two words of a scalar. -/
structure Gap where
  /-- The blanks, if there is no line end. -/
  blanks : List Char
  /-- The first line end and the further ones, if there is one. -/
  breaks : Option (List Char × List Char)

namespace Gap

def none : Gap := ⟨[], .none⟩

/-- What a gap contributes to a scalar: a single line end becomes a blank. -/
def text (g : Gap) : List Char :=
  match g.breaks with
  | .none => g.blanks
  | some (first, more) =>
    if first == ['\n'] then (if more.isEmpty then [' '] else more) else first ++ more

/-- Whether the gap goes over a line end. -/
def hasBreak (g : Gap) : Bool := g.breaks.isSome

end Gap

/-- Reads blanks and line ends. A tab after a line end and before the column `indent` is refused. -/
def readGap (indent : Nat) : (fuel : Nat) → Gap → Source → Option (Gap × Source)
  | 0, g, s => some (g, s)
  | fuel + 1, g, s =>
    match s.rest with
    | [] => some (g, s)
    | c :: _ =>
      if isSpace c then
        if g.hasBreak then
          if c == '\t' && s.column < indent then none else readGap indent fuel g s.skip
        else readGap indent fuel { g with blanks := g.blanks ++ [c] } s.skip
      else if isBreak c then
        let (text, after) := s.readBreak
        let breaks := match g.breaks with
          | none => (text, [])
          | some (first, more) => (first, more ++ text)
        readGap indent fuel ⟨[], some breaks⟩ after
      else some (g, s)

/-! ## Plain scalars -/

/-- Whether the character has a meaning of its own within brackets and braces. -/
def isFlowMark (c : Char) : Bool :=
  c == ',' || c == '[' || c == ']' || c == '\x7b' || c == '\x7d'

/-- Reads a word of a plain scalar; `out` are its characters so far, the last one first. A colon
directly before a mark is refused within brackets and braces. -/
def readWord (flow : Bool) : (fuel : Nat) → (out : List Char) → Source → Option (List Char × Source)
  | 0, out, s => some (out.reverse, s)
  | fuel + 1, out, s =>
    match s.rest with
    | [] => some (out.reverse, s)
    | c :: rest =>
      if isSpace c || isBreak c then some (out.reverse, s)
      else if flow && c == ':' && rest.head?.any (fun d => isFlowMark d || d == '?') then none
      else if c == ':' && s.gapAt 1 || flow && isFlowMark c then some (out.reverse, s)
      else readWord flow fuel (c :: out) s.skip

/-- Reads the words of a plain scalar with the gaps between them. The result tells also whether a
line end follows. -/
def readWords (flow : Bool) (indent : Nat) : (fuel : Nat) → (out : List Char) → Gap → Source →
    Option ((List Char × Bool) × Source)
  | 0, _, _, _ => none
  | fuel + 1, out, gap, s =>
    if s.documentMark || s.next '#' then some ((out, gap.hasBreak), s)
    else do
      let (word, s) ← readWord flow (s.rest.length + 1) [] s
      let (out, gap) := if word.isEmpty then (out, gap) else (out ++ gap.text ++ word, Gap.none)
      if !(s.nextSpace || s.nextBreak) then some ((out, gap.hasBreak), s)
      else
        let (gap, s) ← readGap indent (s.rest.length + 1) gap s
        if !flow && s.column < indent then some ((out, gap.hasBreak), s)
        else readWords flow indent fuel out gap s

/-- Reads a plain scalar whose further lines begin at the column `indent` or after it. -/
def readPlain (flow : Bool) (indent : Nat) (s : Source) : Option ((List Char × Bool) × Source) :=
  readWords flow indent (s.rest.length + 2) [] Gap.none s

/-! ## Scalars in quotes -/

def hexValue? (c : Char) : Option Nat :=
  if c.isDigit then some (c.toNat - 48)
  else if 'a' ≤ c && c ≤ 'f' then some (c.toNat - 87)
  else if 'A' ≤ c && c ≤ 'F' then some (c.toNat - 55)
  else none

/-- Reads the character with the code point of `n` hexadecimal digits. -/
def readCode (n : Nat) (s : Source) : Option (Char × Source) := do
  let digits := s.rest.take n
  let values ← digits.mapM hexValue?
  let code := values.foldl (fun v d => v * 16 + d) 0
  if digits.length == n && code.isValidChar then some (Char.ofNat code, s.skipMany n) else none

/-- The character that a letter after a backslash stands for. -/
def escaped? : Char → Option Char
  | '0' => some '\x00'
  | 'a' => some '\x07'
  | 'b' => some '\x08'
  | 't' => some '\t'
  | '\t' => some '\t'
  | 'n' => some '\n'
  | 'v' => some '\x0b'
  | 'f' => some '\x0c'
  | 'r' => some '\r'
  | 'e' => some '\x1b'
  | ' ' => some ' '
  | '"' => some '"'
  | '\'' => some '\''
  | '/' => some '/'
  | '\\' => some '\\'
  | 'N' => some '\u0085'
  | '_' => some '\u00A0'
  | 'L' => some '\u2028'
  | 'P' => some '\u2029'
  | _ => none

def readEscape (s : Source) : Option (Char × Source) :=
  match s.rest with
  | 'x' :: _ => readCode 2 s.skip
  | 'u' :: _ => readCode 4 s.skip
  | 'U' :: _ => readCode 8 s.skip
  | c :: _ => (escaped? c).map fun d => (d, s.skip)
  | [] => none

/-- How a word in quotes ends: at the quote, at a gap, or at a backslash before a line end. -/
inductive WordEnd where
  | quote
  | gap
  | joined

/-- Reads a word of a scalar in quotes; `out` are its characters so far, the last one first. -/
def readQuotedWord (quote : Char) : (fuel : Nat) → (out : List Char) → Source →
    Option ((List Char × WordEnd) × Source)
  | 0, _, _ => none
  | fuel + 1, out, s =>
    match s.rest with
    | [] => some ((out.reverse, .gap), s)
    | c :: rest =>
      if isSpace c || isBreak c then some ((out.reverse, .gap), s)
      else if c == quote then
        if quote == '\'' && rest.head? == some '\'' then
          readQuotedWord quote fuel ('\'' :: out) (s.skipMany 2)
        else some ((out.reverse, .quote), s.skip)
      else if quote == '"' && c == '\\' then
        if rest.head?.any isBreak then some ((out.reverse, .joined), s.skip.readBreak.2)
        else match readEscape s.skip with
          | some (d, after) => readQuotedWord quote fuel (d :: out) after
          | none => none
      else readQuotedWord quote fuel (c :: out) s.skip

/-- Reads the words of a scalar in quotes with the gaps between them. -/
def readQuotedWords (quote : Char) : (fuel : Nat) → (out : List Char) → Source →
    Option (List Char × Source)
  | 0, _, _ => none
  | fuel + 1, out, s =>
    if s.documentMark || s.atEnd then none
    else do
      let ((word, stop), s) ← readQuotedWord quote (s.rest.length + 1) [] s
      let out := out ++ word
      match stop with
      | .quote => some (out, s)
      | .gap =>
        let (gap, s) ← readGap 0 (s.rest.length + 1) Gap.none s
        readQuotedWords quote fuel (out ++ gap.text) s
      | .joined =>
        let (gap, s) ← readGap 0 (s.rest.length + 1) ⟨[], some ([], [])⟩ s
        readQuotedWords quote fuel (out ++ gap.text) s

def readQuoted (quote : Char) (s : Source) : Option (List Char × Source) :=
  readQuotedWords quote (s.rest.length + 2) [] s.skip

/-! ## Blocks -/

/-- What becomes of the line ends at the end of a block. -/
inductive Chomping where
  /-- One is kept. -/
  | clip
  /-- None is kept. -/
  | strip
  /-- All are kept. -/
  | keep

def chomping? : Char → Option Chomping
  | '+' => some .keep
  | '-' => some .strip
  | _ => none

/-- Reads the signs after the mark of a block: the treatment of line ends and the indentation, in
any order. -/
def readBlockSigns (s : Source) : Option ((Chomping × Option Nat) × Source) :=
  let digit? (s : Source) := (s.rest.head?.filter Char.isDigit).map fun c => c.toNat - 48
  match s.rest.head?.bind chomping? with
  | some chomping =>
    let s := s.skip
    match digit? s with
    | some 0 => none
    | some n => some ((chomping, some n), s.skip)
    | none => some ((chomping, none), s)
  | none =>
    match digit? s with
    | some 0 => none
    | some n =>
      let s := s.skip
      match s.rest.head?.bind chomping? with
      | some chomping => some ((chomping, some n), s.skip)
      | none => some ((.clip, some n), s)
    | none => some ((.clip, none), s)

/-- Reads empty lines and the indentation after them. The indentation ends at the column `indent`;
without one, `widest` is the greatest column reached so far. A tab is refused in it. -/
def readBlockGap (indent : Option Nat) : (fuel : Nat) → (widest : Nat) → (breaks : List Char) →
    Source → Option ((Nat × List Char) × Source)
  | 0, _, _, _ => none
  | fuel + 1, widest, breaks, s =>
    let room := match indent with
      | none => s.rest.length
      | some n => n - s.column
    let s := s.skipMany ((s.rest.take room).takeWhile (· == ' ')).length
    let widest := max widest s.column
    if s.next '\t' && indent.all (s.column < ·) then none
    else if s.nextBreak then
      let (text, s) := s.readBreak
      readBlockGap indent fuel widest (breaks ++ text) s
    else some ((widest, breaks), s)

/-- The state of reading a block: its text, the line end after its last line, the empty lines after
that, and whether its last line begins with a blank. -/
structure Block where
  text : List Char
  lineEnd : List Char
  empty : List Char
  indented : Bool

/-- The text of a block up to its next line. In a folded block a single line end between lines that
begin with no blank becomes a blank. -/
def Block.joined (b : Block) (folded nextIndented : Bool) : List Char :=
  if folded && b.lineEnd == ['\n'] && !b.indented && !nextIndented then
    b.text ++ (if b.empty.isEmpty then [' '] else b.empty)
  else b.text ++ b.lineEnd ++ b.empty

/-- Reads the lines of a block at the column `indent`. -/
def readBlockLines (folded : Bool) (indent : Nat) : (fuel : Nat) → Block → Source →
    Option (Block × Source)
  | 0, _, _ => none
  | fuel + 1, b, s =>
    if s.column != indent || s.atEnd then some (b, s)
    else
      let indented := s.nextSpace
      let text := b.joined folded indented
      let line := s.rest.takeWhile (!isBreak ·)
      let (lineEnd, s) := (s.skipMany line.length).readBreak
      match readBlockGap (some indent) (s.rest.length + 1) 0 [] s with
      | none => none
      | some ((_, empty), s) =>
        readBlockLines folded indent fuel ⟨text ++ line, lineEnd, empty, indented⟩ s

/-- Reads a block from its mark on, where `parent` is the indentation around it plus one. -/
def readBlock (folded : Bool) (parent : Nat) (s : Source) : Option (List Char × Source) := do
  let ((chomping, increment), s) ← readBlockSigns s.skip
  let s ← s.endLine?
  let given := increment.map fun n => (parent - 1) + n
  let ((widest, empty), s) ← readBlockGap given (s.rest.length + 1) 0 [] s
  let indent := given.getD (max widest (max parent 1))
  let (b, s) ← readBlockLines folded indent (s.rest.length + 2) ⟨[], [], empty, false⟩ s
  match chomping with
  | .strip => some (b.text, s)
  | .clip => some (b.text ++ b.lineEnd, s)
  | .keep => some (b.text ++ b.lineEnd ++ b.empty, s)

end Readiness.Yaml
