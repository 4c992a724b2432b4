import Readiness.Pattern.Basic
import Readiness.Unicode.Property

/-!
# Reading patterns

The written form of patterns: literal characters, `.`, classes in brackets, escapes, groups with
flags, alternation, and the repetitions `*`, `+`, `?` and `{n,m}`, with `?` after a repetition for
as few rounds as possible. There is no look-around and no back-reference.

* `Pattern.parse` reads a whole pattern or says what is wrong with it.
* `Pattern.ofSource` also refuses patterns that are too large.
* `Pattern.quote` writes a text as the pattern that matches exactly that text.

The reader goes through the text once. It keeps the flags in force, the branch that it is reading
and the enclosing groups, so that flags set within a group end with the group.
-/

namespace Readiness

open Unicode

namespace Pattern

/-- Why a text is not a pattern. -/
inductive Fault where
  /-- A group has no closing parenthesis. -/
  | unclosedGroup
  /-- A closing parenthesis closes no group. -/
  | unopenedGroup
  /-- A group name is missing, malformed or taken. -/
  | badGroupName
  /-- Flags are unknown, repeated, missing or unfinished. -/
  | badFlags
  /-- Look-around is not available. -/
  | lookAround
  /-- A repetition follows nothing that can be repeated. -/
  | nothingToRepeat
  /-- The bounds of a repetition are missing, malformed, unfinished or out of order. -/
  | badBounds
  /-- A class has no closing bracket. -/
  | unclosedClass
  /-- The ends of a range in a class are out of order or not single characters. -/
  | badRange
  /-- An escape in a class stands for no set of characters. -/
  | notInClass
  /-- An escape is unknown or unfinished. -/
  | badEscape
  /-- There is no property of that name. -/
  | unknownProperty
  /-- A part that reads bytes would match bytes that are not text. -/
  | notText
  /-- The pattern is too large. -/
  | tooLarge

/-- The flags in force. -/
structure Flags where
  /-- `i`: case variants are equal. -/
  ignoreCase : Bool := false
  /-- `m`: `^` and `$` match at lines. -/
  multiLine : Bool := false
  /-- `s`: `.` matches line feeds. -/
  dotAll : Bool := false
  /-- `U`: repetitions prefer few rounds, and `?` makes them prefer many. -/
  swapGreed : Bool := false
  /-- `u`: classes go beyond ASCII. -/
  unicode : Bool := true
  /-- `R`: carriage returns break lines too. -/
  anyLine : Bool := false
  /-- `x`: blanks and comments are skipped. -/
  verbose : Bool := false

/-! ## Blanks and numbers -/

/-- Drops blanks and comments; `comment` says whether the text begins inside a comment. -/
def dropBlanks : (comment : Bool) → List Char → List Char
  | _, [] => []
  | true, c :: cs => dropBlanks (c != '\n') cs
  | false, c :: cs =>
    if isBlank c then dropBlanks false cs
    else if c == '#' then dropBlanks true cs
    else c :: cs

/-- Drops blanks and comments where the flags say so. -/
def Flags.skip (f : Flags) (cs : List Char) : List Char :=
  if f.verbose then dropBlanks false cs else cs

def hexDigit? (c : Char) : Option Nat :=
  if c.isDigit then some (c.toNat - 48)
  else if 'a' ≤ c && c ≤ 'f' then some (c.toNat - 87)
  else if 'A' ≤ c && c ≤ 'F' then some (c.toNat - 55)
  else none

def scalar (n : Nat) : Except Fault Char :=
  if n.isValidChar then .ok (Char.ofNat n) else .error .badEscape

/-- Reads exactly `n` hexadecimal digits after the value `acc`. -/
def readHexFixed (f : Flags) : (n acc : Nat) → List Char → Except Fault (Nat × List Char)
  | 0, acc, cs => .ok (acc, cs)
  | _ + 1, _, [] => .error .badEscape
  | n + 1, acc, c :: cs =>
    match hexDigit? c with
    | none => .error .badEscape
    | some d => readHexFixed f n (acc * 16 + d) (f.skip cs)

/-- Reads hexadecimal digits up to a closing brace; `acc` is their value so far. -/
def readHexBraced (f : Flags) : (fuel : Nat) → (acc : Option Nat) → List Char →
    Except Fault (Nat × List Char)
  | 0, _, _ => .error .badEscape
  | _, _, [] => .error .badEscape
  | fuel + 1, acc, c :: cs =>
    if c == '}' then
      match acc with
      | none => .error .badEscape
      | some n => .ok (n, f.skip cs)
    else match hexDigit? c with
      | none => .error .badEscape
      | some d => readHexBraced f fuel (some (acc.getD 0 * 16 + d)) (f.skip cs)

/-- Reads the decimal digits of a bound, between blanks. -/
def readDigits (f : Flags) : (fuel : Nat) → (acc : Option Nat) → List Char → Option Nat × List Char
  | 0, acc, cs => (acc, cs)
  | _, acc, [] => (acc, [])
  | fuel + 1, acc, c :: cs =>
    if c.isDigit then readDigits f fuel (some (acc.getD 0 * 10 + (c.toNat - 48))) (f.skip cs)
    else (acc, (c :: cs).dropWhile isBlank)

/-- Reads one bound of a repetition; `none` if there are no digits. -/
def readBound (f : Flags) (cs : List Char) : Except Fault ((Option Nat) × List Char) :=
  let r := readDigits f (cs.length + 1) none (cs.dropWhile isBlank)
  if r.1.any (Nat.pow 2 32 ≤ ·) then .error .badBounds else .ok r

/-! ## Escapes -/

/-- What an escape or a single character stands for. -/
inductive Atom where
  /-- A character; `byte` if it was written as two hexadecimal digits. -/
  | literal (c : Char) (byte : Bool)
  | set (s : CharSet)
  | assert (a : Assertion)

/-- The characters with a meaning of their own, which a backslash takes away. -/
def metaCharacters : List Char :=
  ['\\', '.', '+', '*', '?', '(', ')', '|', '[', ']', '\x7b', '\x7d', '^', '$', '#', '&', '-', '~']

def Flags.wordChar (f : Flags) : Char → Bool := if f.unicode then isWord else isAsciiWord

/-- The class that a letter after a backslash names. -/
def letterClass? (f : Flags) (c : Char) : Option CharSet :=
  match c with
  | 'd' => some (.having (if f.unicode then isDecimalDigit else Char.isDigit))
  | 's' => some (.having (if f.unicode then isBlank else fun c => c.toNat < 128 && isBlank c))
  | 'w' => some (.having f.wordChar)
  | _ => none

def wordEdge? (name : String) : Option WordEdge :=
  match name with
  | "start" => some .start
  | "end" => some .stop
  | "start-half" => some .startHalf
  | "end-half" => some .stopHalf
  | _ => none

/-- Whether a character can stand in the name of a word edge. -/
def isEdgeChar (c : Char) : Bool := c.isAlpha || c == '-'

/-- Reads the name of a word edge up to the closing brace. -/
def readEdgeName (f : Flags) : (fuel : Nat) → (name : List Char) → List Char →
    Except Fault (List Char × List Char)
  | 0, _, _ => .error .badEscape
  | _, _, [] => .error .badEscape
  | fuel + 1, name, c :: cs =>
    if isEdgeChar c then readEdgeName f fuel (c :: name) (f.skip cs)
    else if c == '}' then .ok (name.reverse, cs)
    else .error .badEscape

/-- Reads what follows a `b` after a backslash: a name in braces, or nothing. Braces with other
content belong to a repetition. -/
def readEdge (f : Flags) (cs : List Char) : Except Fault (WordEdge × List Char) :=
  match cs with
  | '{' :: rest =>
    match f.skip rest with
    | [] => .error .badEscape
    | c :: more =>
      if isEdgeChar c then do
        let (name, after) ← readEdgeName f (more.length + 2) [] (c :: more)
        match wordEdge? (String.ofList name) with
        | some e => .ok (e, after)
        | none => .error .badEscape
      else .ok (.edge, cs)
  | _ => .ok (.edge, cs)

/-- The property that the text in the braces names. -/
def namedProperty (name : List Char) : Except Fault (Bool × (Char → Bool)) :=
  let positive (p : Option (Char → Bool)) : Except Fault (Bool × (Char → Bool)) :=
    match p with
    | some p => .ok (true, p)
    | none => .error .unknownProperty
  let split (sep : Char) := (name.takeWhile (· != sep), (name.dropWhile (· != sep)).drop 1)
  let unequal := (List.range name.length).find? fun i => (name.drop i).take 2 == ['!', '=']
  match unequal with
  | some i =>
    (positive (propertyValue? (name.take i) (name.drop (i + 2)))).map fun r => (false, r.2)
  | none =>
    if name.contains ':' then positive (propertyValue? (split ':').1 (split ':').2)
    else if name.contains '=' then positive (propertyValue? (split '=').1 (split '=').2)
    else positive (property? name)

def readBraced (f : Flags) : (fuel : Nat) → (name : List Char) → List Char →
    Except Fault (List Char × List Char)
  | 0, _, _ => .error .badEscape
  | _, _, [] => .error .badEscape
  | fuel + 1, name, c :: cs =>
    if c == '}' then .ok (name.reverse, cs) else readBraced f fuel (c :: name) (f.skip cs)

/-- Reads what follows a `p` or `P` after a backslash. -/
def readProperty (f : Flags) (negated : Bool) (cs : List Char) :
    Except Fault (CharSet × List Char) := do
  let finish (r : Bool × (Char → Bool)) (after : List Char) : Except Fault (CharSet × List Char) :=
    if !f.unicode then .error .notText
    else
      let set : CharSet := if f.ignoreCase then .folded (.having r.2) else .having r.2
      .ok (if r.1 == negated then .compl set else set, after)
  match f.skip cs with
  | [] => .error .badEscape
  | '{' :: rest =>
    let (name, after) ← readBraced f (rest.length + 1) [] (f.skip rest)
    finish (← namedProperty name) after
  | c :: rest =>
    if c == '\\' then .error .badEscape
    else match property? [c] with
      | some p => finish (true, p) (f.skip rest)
      | none => .error .unknownProperty

/-- Reads what follows a backslash. -/
def readEscape (f : Flags) : List Char → Except Fault (Atom × List Char)
  | [] => .error .badEscape
  | c :: cs =>
    if c.isDigit then .error .badEscape
    else if c == 'x' || c == 'u' || c == 'U' then
      match f.skip cs with
      | '{' :: rest => do
        let (n, after) ← readHexBraced f (rest.length + 1) none (f.skip rest)
        .ok (.literal (← scalar n) false, after)
      | rest => do
        let digits := if c == 'x' then 2 else if c == 'u' then 4 else 8
        let (n, after) ← readHexFixed f digits 0 rest
        .ok (.literal (← scalar n) (c == 'x'), after)
    else if c == 'p' || c == 'P' then do
      let (s, after) ← readProperty f (c == 'P') cs
      .ok (.set s, after)
    else match letterClass? f c with
      | some s => .ok (.set s, cs)
      | none =>
        match letterClass? f c.toLower with
        | some s => if f.unicode then .ok (.set (.compl s), cs) else .error .notText
        | none =>
          if metaCharacters.contains c then .ok (.literal c false, cs)
          else match c with
            | 'a' => .ok (.literal '\x07' false, cs)
            | 'f' => .ok (.literal '\x0c' false, cs)
            | 't' => .ok (.literal '\t' false, cs)
            | 'n' => .ok (.literal '\n' false, cs)
            | 'r' => .ok (.literal '\r' false, cs)
            | 'v' => .ok (.literal '\x0b' false, cs)
            | 'A' => .ok (.assert .textStart, cs)
            | 'z' => .ok (.assert .textEnd, cs)
            | 'b' => do
              let (e, after) ← readEdge f cs
              .ok (.assert (.words e f.wordChar), after)
            | 'B' => .ok (.assert (.words .noEdge f.wordChar), cs)
            | '<' => .ok (.assert (.words .start f.wordChar), cs)
            | '>' => .ok (.assert (.words .stop f.wordChar), cs)
            | _ =>
              if c.toNat < 128 && !c.isAlphanum then .ok (.literal c false, cs)
              else .error .badEscape

/-! ## Classes -/

/-- Operations on the sets of a class. -/
inductive ClassOp where
  | inter
  | diff
  | symmDiff

/-- Closes a set under case variants where the flags say so. -/
def Flags.fold (f : Flags) (s : CharSet) : CharSet :=
  if !f.ignoreCase then s else if f.unicode then .folded s else .asciiFolded s

def ClassOp.apply (op : ClassOp) (f : Flags) (a b : CharSet) : CharSet :=
  match op with
  | .inter => .inter (f.fold a) (f.fold b)
  | .diff => (f.fold a).diff (f.fold b)
  | .symmDiff => (f.fold a).symmDiff (f.fold b)

/-- A class that is being read: the operation whose right side is being read, with its left side,
and the union of the items of the current side. -/
structure ClassLevel where
  negated : Bool
  pending : Option (ClassOp × CharSet)
  items : CharSet

namespace ClassLevel

def add (l : ClassLevel) (s : CharSet) : ClassLevel := { l with items := .union l.items s }

def value (l : ClassLevel) (f : Flags) : CharSet :=
  match l.pending with
  | none => l.items
  | some (op, left) => op.apply f left l.items

def operate (l : ClassLevel) (f : Flags) (op : ClassOp) : ClassLevel :=
  { l with pending := some (op, l.value f), items := .none }

/-- The set that the closing bracket completes. -/
def close (l : ClassLevel) (f : Flags) : Except Fault CharSet :=
  let s := f.fold (l.value f)
  let s := if l.negated then .compl s else s
  if !f.unicode && s.passesAscii then .error .notText else .ok s

end ClassLevel

def asciiClass? (name : String) : Option CharSet :=
  let range (a b : Char) : CharSet := .range a b
  match name with
  | "alnum" => some (.having Char.isAlphanum)
  | "alpha" => some (.having Char.isAlpha)
  | "ascii" => some (range '\x00' '\x7f')
  | "blank" => some (.ofList ['\t', ' '])
  | "cntrl" => some (.union (range '\x00' '\x1f') (.one '\x7f'))
  | "digit" => some (range '0' '9')
  | "graph" => some (range '!' '~')
  | "lower" => some (range 'a' 'z')
  | "print" => some (range ' ' '~')
  | "punct" => some (.union (.union (range '!' '/') (range ':' '@'))
      (.union (range '[' '\x60') (range '\x7b' '~')))
  | "space" => some (.union (range '\t' '\r') (.one ' '))
  | "upper" => some (range 'A' 'Z')
  | "word" => some (.having isAsciiWord)
  | "xdigit" => some (.union (range '0' '9') (.union (range 'a' 'f') (range 'A' 'F')))
  | _ => none

/-- Reads a named set such as `[:alpha:]` after its opening bracket, if there is one. -/
def readAsciiClass? : List Char → Option (CharSet × List Char)
  | ':' :: cs =>
    let (negated, cs) := match cs with
      | '^' :: more => (true, more)
      | more => (false, more)
    let name := cs.takeWhile (· != ':')
    match cs.dropWhile (· != ':') with
    | ':' :: ']' :: after =>
      (asciiClass? (String.ofList name)).map fun s => (if negated then .compl s else s, after)
    | _ => none
  | _ => none

/-- Drops the hyphens at the beginning of a class, which stand for themselves. -/
def readHyphens (f : Flags) : (fuel : Nat) → ClassLevel → List Char → ClassLevel × Bool × List Char
  | fuel + 1, l, '-' :: cs =>
    let r := readHyphens f fuel (l.add (.one '-')) (f.skip cs)
    (r.1, true, r.2.2)
  | _, l, cs => (l, false, cs)

/-- Reads the beginning of a class after its opening bracket: a caret for negation, hyphens, and a
closing bracket that stands for itself because it comes first. -/
def openClass (f : Flags) (cs : List Char) : ClassLevel × List Char :=
  let (negated, cs) := match f.skip cs with
    | '^' :: more => (true, f.skip more)
    | more => (false, more)
  let (l, any, cs) := readHyphens f cs.length ⟨negated, none, .none⟩ cs
  match any, cs with
  | false, ']' :: more => (l.add (.one ']'), f.skip more)
  | _, cs => (l, cs)

/-- Reads a single character or an escape in a class. -/
def readClassAtom (f : Flags) : List Char → Except Fault (Atom × List Char)
  | [] => .error .unclosedClass
  | '\\' :: cs => readEscape f cs
  | c :: cs => .ok (.literal c false, cs)

/-- The single character that an end of a range must be. -/
def Atom.rangeEnd (f : Flags) : Atom → Except Fault Char
  | .literal c _ => if !f.unicode && 128 ≤ c.toNat then .error .notText else .ok c
  | _ => .error .badRange

/-- The set that an item of a class stands for. -/
def Atom.item (f : Flags) : Atom → Except Fault CharSet
  | .literal c _ => if !f.unicode && 128 ≤ c.toNat then .error .notText else .ok (.one c)
  | .set s => .ok s
  | .assert _ => .error .notInClass

/-- Whether a hyphen with this text after it stands for itself or begins an operation. -/
def endsItem : List Char → Bool
  | ']' :: _ => true
  | '-' :: _ => true
  | _ => false

/-- Reads a character, an escape or a range in a class. -/
def readItem (f : Flags) (cs : List Char) : Except Fault (CharSet × List Char) := do
  let (first, cs) ← readClassAtom f cs
  match f.skip cs with
  | [] => .error .unclosedClass
  | '-' :: more =>
    if endsItem (f.skip more) then .ok (← first.item f, '-' :: more)
    else
      let (last, after) ← readClassAtom f (f.skip more)
      let lo ← first.rangeEnd f
      let hi ← last.rangeEnd f
      if hi < lo then .error .badRange else .ok (.range lo hi, after)
  | rest => .ok (← first.item f, rest)

/-- Reads the rest of a class; `outer` holds the classes around it, the innermost first. -/
def readClass (f : Flags) : (fuel : Nat) → ClassLevel → (outer : List ClassLevel) → List Char →
    Except Fault (CharSet × List Char)
  | 0, _, _, _ => .error .unclosedClass
  | fuel + 1, l, outer, cs =>
    match f.skip cs with
    | [] => .error .unclosedClass
    | '[' :: rest =>
      match readAsciiClass? rest with
      | some (s, after) => readClass f fuel (l.add s) outer after
      | none =>
        let (inner, after) := openClass f rest
        readClass f fuel inner (l :: outer) after
    | ']' :: rest => do
      let s ← l.close f
      match outer with
      | [] => .ok (s, rest)
      | o :: os => readClass f fuel (o.add s) os rest
    | '&' :: '&' :: rest => readClass f fuel (l.operate f .inter) outer rest
    | '-' :: '-' :: rest => readClass f fuel (l.operate f .diff) outer rest
    | '~' :: '~' :: rest => readClass f fuel (l.operate f .symmDiff) outer rest
    | rest => do
      let (s, after) ← readItem f rest
      readClass f fuel (l.add s) outer after

/-! ## Groups -/

/-- One element of a branch: a pattern, or flags set for what follows. -/
inductive Piece where
  | item (p : Pattern)
  | flags

/-- The content of a group so far: its finished branches and the pieces of the current one, the
last of each first. -/
structure Level where
  branches : List Pattern
  pieces : List Piece

namespace Level

def branch (l : Level) : Pattern :=
  seqReversed (l.pieces.filterMap fun | .item p => some p | .flags => none)

def close (l : Level) : Pattern := altReversed (l.branch :: l.branches)

end Level

/-- The state of the reader: the flags in force, the group being read, the groups around it with
the flags to return to, the innermost first, and the group names in use. -/
structure State where
  flags : Flags
  level : Level
  outer : List (Flags × Level)
  names : List (List Char)

namespace State

def initial : State := ⟨{}, ⟨[], []⟩, [], []⟩

def push (s : State) (p : Piece) : State :=
  { s with level := { s.level with pieces := p :: s.level.pieces } }

def openGroup (s : State) (f : Flags) : State :=
  { s with flags := f, level := ⟨[], []⟩, outer := (s.flags, s.level) :: s.outer }

end State

/-- Sets or clears the flag of that letter. -/
def Flags.set? (f : Flags) (letter : Char) (on : Bool) : Option Flags :=
  match letter with
  | 'i' => some { f with ignoreCase := on }
  | 'm' => some { f with multiLine := on }
  | 's' => some { f with dotAll := on }
  | 'U' => some { f with swapGreed := on }
  | 'u' => some { f with unicode := on }
  | 'R' => some { f with anyLine := on }
  | 'x' => some { f with verbose := on }
  | _ => none

/-- Reads flags up to the colon or parenthesis that ends them, which is the last part of the result;
`used` are the letters and hyphens read so far, the last one first. -/
def readFlags : (used : List Char) → Flags → List Char →
    Except Fault ((Flags × List Char × Char) × List Char)
  | _, _, [] => .error .badFlags
  | used, f, c :: cs =>
    if c == ':' || c == ')' then
      if used.head? == some '-' then .error .badFlags else .ok ((f, used, c), cs)
    else if used.contains c then .error .badFlags
    else if c == '-' then readFlags (c :: used) f cs
    else match f.set? c (!used.contains '-') with
      | some g => readFlags (c :: used) g cs
      | none => .error .badFlags

/-- Whether a text can be the name of a group. -/
def isGroupName : List Char → Bool
  | [] => false
  | c :: cs =>
    (c == '_' || isAlphabetic c) &&
      cs.all fun c => c == '_' || c == '.' || c == '[' || c == ']' || isAlphanumeric c

/-- Opens a named group; the text begins with the name. -/
def openNamed (s : State) (cs : List Char) : Except Fault (State × List Char) :=
  let name := cs.takeWhile (· != '>')
  match cs.dropWhile (· != '>') with
  | [] => .error .badGroupName
  | _ :: after =>
    if isGroupName name && !s.names.contains name then
      .ok ({ s.openGroup s.flags with names := name :: s.names }, after)
    else .error .badGroupName

/-- Opens a group after its opening parenthesis, or sets flags. -/
def openParen (s : State) (cs : List Char) : Except Fault (State × List Char) :=
  match s.flags.skip cs with
  | '?' :: '=' :: _ => .error .lookAround
  | '?' :: '!' :: _ => .error .lookAround
  | '?' :: '<' :: '=' :: _ => .error .lookAround
  | '?' :: '<' :: '!' :: _ => .error .lookAround
  | '?' :: 'P' :: '<' :: rest => openNamed s rest
  | '?' :: '<' :: rest => openNamed s rest
  | '?' :: rest => do
    let ((f, used, stop), after) ← readFlags [] s.flags rest
    if stop == ':' then .ok (s.openGroup f, after)
    else if used.isEmpty then .error .badFlags
    else .ok ({ s.push .flags with flags := f }, after)
  | rest => .ok (s.openGroup s.flags, rest)

/-- Closes a group. -/
def closeParen (s : State) (cs : List Char) : Except Fault (State × List Char) :=
  match s.outer with
  | [] => .error .unopenedGroup
  | (f, l) :: outer =>
    let p := s.level.close
    .ok ({ s with flags := f, level := { l with pieces := .item p :: l.pieces }, outer }, cs)

def nextBranch (s : State) : State :=
  { s with level := ⟨s.level.branch :: s.level.branches, []⟩ }

/-! ## Repetitions and single characters -/

def repeatLast (s : State) (min : Nat) (max : Option Nat) (lazy : Bool) : Except Fault State :=
  match s.level.pieces with
  | .item p :: ps =>
    let greedy := lazy == s.flags.swapGreed
    .ok { s with level := { s.level with pieces := .item (.iter min max greedy p) :: ps } }
  | _ => .error .nothingToRepeat

/-- Repeats the last piece by a repetition sign, with what follows the sign. -/
def repeatSign (s : State) (min : Nat) (max : Option Nat) (cs : List Char) :
    Except Fault (State × List Char) :=
  match cs with
  | '?' :: rest => (repeatLast s min max true).map fun s => (s, rest)
  | rest => (repeatLast s min max false).map fun s => (s, rest)

/-- Reads the bounds of a repetition after the opening brace. -/
def readBounds (f : Flags) (cs : List Char) : Except Fault ((Nat × Option Nat) × List Char) := do
  let (min, cs) ← readBound f (f.skip cs)
  match cs with
  | ',' :: rest =>
    match min, f.skip rest with
    | some n, '}' :: after => .ok ((n, none), after)
    | some n, rest => do
      match ← readBound f rest with
      | (some m, '}' :: after) => if n ≤ m then .ok ((n, some m), after) else .error .badBounds
      | _ => .error .badBounds
    | none, _ => .error .badBounds
  | '}' :: after =>
    match min with
    | some n => .ok ((n, some n), after)
    | none => .error .badBounds
  | _ => .error .badBounds

/-- Repeats the last piece by bounds in braces. -/
def repeatBounds (s : State) (cs : List Char) : Except Fault (State × List Char) := do
  match s.level.pieces with
  | .item _ :: _ =>
    let ((min, max), after) ← readBounds s.flags cs
    repeatSign s min max (s.flags.skip after)
  | _ => .error .nothingToRepeat

def Atom.pattern (f : Flags) : Atom → Except Fault Pattern
  | .literal c byte =>
    if !f.unicode && byte && 128 ≤ c.toNat then .error .notText
    else .ok (.char (f.fold (.one c)))
  | .set s => .ok (.char s)
  | .assert a => .ok (.assert a)

def Flags.dot (f : Flags) : Except Fault CharSet :=
  if !f.unicode then .error .notText
  else if f.dotAll then .ok (.compl .none)
  else if f.anyLine then .ok (.compl (.ofList ['\r', '\n']))
  else .ok (.compl (.one '\n'))

def Flags.caret (f : Flags) : Assertion :=
  if !f.multiLine then .textStart else if f.anyLine then .anyLineStart else .lineStart

/-- The condition that a dollar sign stands for. -/
def Flags.dollar (f : Flags) : Assertion :=
  if !f.multiLine then .textEnd else if f.anyLine then .anyLineEnd else .lineEnd

/-! ## The reader -/

/-- Reads one element that begins with the character `c`. -/
def readOne (s : State) (c : Char) (cs : List Char) : Except Fault (State × List Char) :=
  match c with
  | '(' => openParen s cs
  | ')' => closeParen s cs
  | '|' => .ok (nextBranch s, cs)
  | '[' => do
    let (l, rest) := openClass s.flags cs
    let (set, after) ← readClass s.flags (cs.length + 1) l [] rest
    .ok (s.push (.item (.char set)), after)
  | '?' => repeatSign s 0 (some 1) cs
  | '*' => repeatSign s 0 none cs
  | '+' => repeatSign s 1 none cs
  | '{' => repeatBounds s cs
  | '\\' => do
    let (a, after) ← readEscape s.flags cs
    .ok (s.push (.item (← a.pattern s.flags)), after)
  | '.' => do .ok (s.push (.item (.char (← s.flags.dot))), cs)
  | '^' => .ok (s.push (.item (.assert s.flags.caret)), cs)
  | '$' => .ok (s.push (.item (.assert s.flags.dollar)), cs)
  | c => do .ok (s.push (.item (← (Atom.literal c false).pattern s.flags)), cs)

def readAll : (fuel : Nat) → State → List Char → Except Fault Pattern
  | 0, _, _ => .error .tooLarge
  | fuel + 1, s, cs =>
    match s.flags.skip cs with
    | [] => if s.outer.isEmpty then .ok s.level.close else .error .unclosedGroup
    | c :: rest => do
      let (s, after) ← readOne s c rest
      readAll fuel s after

def parse (source : List Char) : Except Fault Pattern := readAll (source.length + 1) .initial source

/-- The greatest weight of a pattern that can be searched for. It stands for the limit on the size
of a compiled pattern and does not meet that limit exactly. -/
def weightLimit : Nat := 327680

/-- Reads a pattern that can be searched for: one that is not too large. The limits on resources are
only approximated: the size of the compiled pattern is estimated by the weight, and groups may be
nested to any depth, where the program takes no more than 250 levels. -/
def ofSource (source : List Char) : Except Fault Pattern := do
  let p ← parse source
  if p.weight ≤ weightLimit then .ok p else .error .tooLarge

/-- The pattern source that matches exactly the given text. -/
def quote (s : List Char) : List Char :=
  s.flatMap fun c => if metaCharacters.contains c then ['\\', c] else [c]

end Pattern

end Readiness
