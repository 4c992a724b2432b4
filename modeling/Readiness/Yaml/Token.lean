import Readiness.Yaml.Scalar
import Readiness.Text.Utf8

/-!
# YAML tokens

The tokens of a YAML text. Indentation becomes tokens of its own, and a mark for a key is placed
before the key when the colon after it is met.

* `Token.ofText?` lists the tokens of a text; a text with a mistake has none.

The scanner keeps, for every bracket or brace that is open, the place where a key without a mark may
have begun.
-/

namespace Readiness.Yaml

/-- A token. -/
inductive Token where
  | version (major minor : Nat)
  | tagHandle (handle lead : String)
  | documentStart
  | documentEnd
  | blockSequenceStart
  | blockMappingStart
  | blockEnd
  | flowSequenceStart
  | flowSequenceEnd
  | flowMappingStart
  | flowMappingEnd
  | blockEntry
  | flowEntry
  | key
  | value
  | alias (name : String)
  | anchor (name : String)
  | tag (handle suffix : String)
  | scalar (text : String) (plain : Bool)

/-- A place where a key may have begun. -/
structure KeyPlace where
  /-- Whether only a key can stand here. -/
  required : Bool
  /-- The number of tokens before it. -/
  tokens : Nat
  source : Source

/-- The state of the scanner. -/
structure Scan where
  source : Source
  /-- The tokens so far, the last one first. -/
  tokens : List Token
  /-- The columns of the open block collections, the innermost first. -/
  indents : List Nat
  /-- Whether a key without a mark may begin here. -/
  keyAllowed : Bool
  /-- The possible key of the current level. -/
  key : Option KeyPlace
  /-- The possible keys of the levels around it, one for each open bracket or brace. -/
  outer : List (Option KeyPlace)

namespace Scan

def start (text : List Char) : Scan := ⟨.start text, [], [], true, none, []⟩

def inFlow (s : Scan) : Bool := !s.outer.isEmpty

/-- One more than the column of the innermost block collection, or zero. -/
def indent (s : Scan) : Nat :=
  match s.indents with
  | [] => 0
  | n :: _ => n + 1

def add (s : Scan) (t : Token) : Scan := { s with tokens := t :: s.tokens }

/-- Adds a token before those from place `n` on. -/
def insert (s : Scan) (n : Nat) (t : Token) : Scan :=
  let later := s.tokens.length - n
  { s with tokens := s.tokens.take later ++ t :: s.tokens.drop later }

def skip (s : Scan) (n : Nat) : Scan := { s with source := s.source.skipMany n }

/-- Opens a block collection at the column, unless it is open. -/
def roll (s : Scan) (column tokens : Nat) (t : Token) : Scan :=
  if s.inFlow || column < s.indent then s
  else { s.insert tokens t with indents := column :: s.indents }

/-- Ends the block collections at columns from `indent` on. -/
def unroll (s : Scan) (indent : Nat) : Scan :=
  if s.inFlow then s
  else
    let ended := (s.indents.takeWhile (indent ≤ ·)).length
    { s with
      tokens := List.replicate ended .blockEnd ++ s.tokens
      indents := s.indents.drop ended }

/-- Gives up the possible key; a required one cannot be given up. -/
def dropKey (s : Scan) : Option Scan :=
  match s.key with
  | some k => if k.required then none else some { s with key := none }
  | none => some s

/-- Remembers the place as a possible key, where one may begin. -/
def saveKey (s : Scan) : Option Scan :=
  if !s.keyAllowed then some s
  else do
    let s ← s.dropKey
    let required := !s.inFlow && s.indents.head? == some s.source.column
    some { s with key := some ⟨required, s.tokens.length, s.source⟩ }

/-- The greatest number of characters of a key without a mark. -/
def maxKey : Nat := 1024

/-- A possible key that lies too far back to be one. A required one cannot lie so far back. -/
def refresh (source : Source) : Option KeyPlace → Option (Option KeyPlace)
  | none => some none
  | some k =>
    if k.source.line < source.line || k.source.index + maxKey < source.index then
      if k.required then none else some none
    else some (some k)

/-- Gives up the possible keys that lie too far back. -/
def dropStale (s : Scan) : Option Scan := do
  let key ← refresh s.source s.key
  let outer ← s.outer.mapM (refresh s.source)
  some { s with key, outer }

/-- Moves past blanks, comments and line ends. After a line end outside brackets and braces a key
may begin. Tabs are blanks only where no key may begin, and a byte order mark may begin a line. -/
def skipGap (s : Scan) : (fuel : Nat) → Scan
  | 0 => s
  | fuel + 1 =>
    let blank (c : Char) := c == ' ' || (c == '\t' && (s.inFlow || !s.keyAllowed))
    let source := if s.source.column == 0 && s.source.next '\uFEFF' then s.source.skip else s.source
    let source := (source.skipWhile blank).skipComment
    if source.nextBreak then
      skipGap { s with source := source.readBreak.2, keyAllowed := s.keyAllowed || !s.inFlow } fuel
    else { s with source }

/-! ## Directives, anchors and tags -/

def readName (s : Source) : String × Source :=
  (String.ofList (s.rest.takeWhile isNameChar), s.skipWhile isNameChar)

/-- Reads a number of at most nine digits. -/
def readNumber (s : Source) : Option (Nat × Source) :=
  let digits := s.rest.takeWhile Char.isDigit
  if digits.isEmpty || 9 < digits.length then none
  else some (digits.foldl (fun n c => n * 10 + (c.toNat - 48)) 0, s.skipMany digits.length)

/-- Reads the handle of a tag: exclamation marks with a name between them, or one of them and a
name. A directive does not allow the latter. -/
def readHandle (directive : Bool) (s : Source) : Option (String × Source) :=
  if !s.next '!' then none
  else
    let (name, after) := readName s.skip
    if after.next '!' then some ("!" ++ name ++ "!", after.skip)
    else if directive && !name.isEmpty then none
    else some ("!" ++ name, after)

/-- Whether the character can stand in a tag; `verbatim` tags allow more. -/
def isTagChar (verbatim : Bool) (c : Char) : Bool :=
  isNameChar c ||
    [';', '/', '?', ':', '@', '&', '=', '+', '$', '.', '!', '~', '*', '\'', '(', ')'].contains c ||
    (verbatim && (c == ',' || c == '[' || c == ']'))

/-- Reads the bytes written as percent signs with two digits each. -/
def readBytes : (fuel : Nat) → (bytes : List UInt8) → Source → Option (List UInt8 × Source)
  | 0, _, _ => none
  | fuel + 1, bytes, s =>
    match s.rest with
    | '%' :: a :: b :: _ => do
      let hi ← hexValue? a
      let lo ← hexValue? b
      readBytes fuel (UInt8.ofNat (hi * 16 + lo) :: bytes) (s.skipMany 3)
    | '%' :: _ => none
    | _ => some (bytes.reverse, s)

/-- Reads the characters of a tag; `out` are those so far, the last one first. -/
def readTagChars (verbatim : Bool) : (fuel : Nat) → (out : List Char) → Source →
    Option (List Char × Source)
  | 0, _, _ => none
  | fuel + 1, out, s =>
    match s.rest with
    | '%' :: _ => do
      let (bytes, after) ← readBytes (s.rest.length + 1) [] s
      let text ← Utf8.decode? bytes
      readTagChars verbatim fuel (text.reverse ++ out) after
    | c :: _ =>
      if isTagChar verbatim c then readTagChars verbatim fuel (c :: out) s.skip
      else some (out.reverse, s)
    | [] => some (out.reverse, s)

def readTagText (verbatim : Bool) (s : Source) : Option (String × Source) :=
  (readTagChars verbatim (s.rest.length + 1) [] s).map fun r => (String.ofList r.1, r.2)

/-- Reads a tag: its handle and what follows it. -/
def readTag (inFlow : Bool) (s : Source) : Option (Token × Source) := do
  let (handle, suffix, after) ←
    if s.peek? 1 == some '<' then do
      let (text, after) ← readTagText true (s.skipMany 2)
      if text.isEmpty || !after.next '>' then none else some ("", text, after.skip)
    else do
      let (handle, after) ← readHandle false s
      if 2 ≤ handle.length && handle.endsWith "!" then do
        let (text, after) ← readTagText false after
        if text.isEmpty then none else some (handle, text, after)
      else do
        let (text, after) ← readTagText false after
        let suffix := (handle.drop 1).toString ++ text
        some (if suffix.isEmpty then ("", "!", after) else ("!", suffix, after))
  if after.gapAt 0 || (inFlow && after.next ',') then some (.tag handle suffix, after) else none

/-- Reads the name of an anchor or an alias after its mark. -/
def readAnchor (s : Source) : Option (String × Source) :=
  let (name, after) := readName s.skip
  let ends := after.gapAt 0 ||
    after.rest.head?.any fun c => ['?', ':', ',', ']', '\x7d', '%', '@', '\x60'].contains c
  if name.isEmpty || !ends then none else some (name, after)

def readDirective (s : Source) : Option (Token × Source) := do
  let (name, after) := readName s.skip
  if !after.gapAt 0 then none
  else
    let value := after.skipWhile isSpace
    let (token, after) ←
      match name with
      | "YAML" => do
        let (major, after) ← readNumber value
        if !after.next '.' then none
        else
          let (minor, after) ← readNumber after.skip
          some (Token.version major minor, after)
      | "TAG" => do
        let (handle, after) ← readHandle true value
        if !after.nextSpace then none
        else
          let (text, after) ← readTagText true (after.skipWhile isSpace)
          if text.isEmpty || !after.gapAt 0 then none else some (Token.tagHandle handle text, after)
      | _ => none
    let after ← after.endLine?
    some (token, after)

/-! ## Steps -/

/-- Adds a token that has been read, after which no key may begin. -/
def finish (s : Scan) (r : Token × Source) : Scan :=
  { s with source := r.2, tokens := r.1 :: s.tokens, keyAllowed := false }

/-- A mark at the beginning of a line that ends all collections. -/
def documentToken (s : Scan) (t : Token) : Option Scan := do
  let s ← (s.unroll 0).dropKey
  some { (s.add t).skip 3 with keyAllowed := false }

def openFlow (s : Scan) (t : Token) : Option Scan := do
  let s ← s.saveKey
  some { (s.add t).skip 1 with keyAllowed := true, key := none, outer := s.key :: s.outer }

def closeFlow (s : Scan) (t : Token) : Option Scan := do
  let s ← s.dropKey
  let s := match s.outer with
    | [] => s
    | key :: outer => { s with key, outer }
  some { (s.add t).skip 1 with keyAllowed := false }

def flowEntry (s : Scan) : Option Scan := do
  let s ← s.dropKey
  some { (s.add .flowEntry).skip 1 with keyAllowed := true }

def blockEntry (s : Scan) : Option Scan := do
  let s ←
    if s.inFlow then some s
    else if !s.keyAllowed then none
    else some (s.roll s.source.column s.tokens.length .blockSequenceStart)
  let s ← s.dropKey
  some { (s.add .blockEntry).skip 1 with keyAllowed := true }

def keyMark (s : Scan) : Option Scan := do
  let s ←
    if s.inFlow then some s
    else if !s.keyAllowed then none
    else some (s.roll s.source.column s.tokens.length .blockMappingStart)
  let s ← s.dropKey
  some { (s.add .key).skip 1 with keyAllowed := !s.inFlow }

/-- A colon for a value. If a possible key precedes it, the key gets its mark now. -/
def valueMark (s : Scan) : Option Scan := do
  let s ←
    match s.key with
    | some k =>
      let s := (s.insert k.tokens .key).roll k.source.column k.tokens .blockMappingStart
      some { s with key := none, keyAllowed := false }
    | none =>
      if s.inFlow then some { s with keyAllowed := false }
      else if !s.keyAllowed then none
      else
        let s := s.roll s.source.column s.tokens.length .blockMappingStart
        some { s with keyAllowed := true }
  some ((s.add .value).skip 1)

def quoted (s : Scan) (quote : Char) : Option Scan := do
  let s ← s.saveKey
  let (text, after) ← readQuoted quote s.source
  some (s.finish (.scalar (String.ofList text) false, after))

def block (s : Scan) (folded : Bool) : Option Scan := do
  let s ← s.dropKey
  let (text, after) ← readBlock folded s.indent s.source
  some { s.finish (.scalar (String.ofList text) false, after) with keyAllowed := true }

/-- A plain scalar. A key may begin after it if it ends with a line. -/
def plain (s : Scan) : Option Scan := do
  let s ← s.saveKey
  let ((text, newLine), after) ← readPlain s.inFlow s.indent s.source
  some { s.finish (.scalar (String.ofList text) true, after) with keyAllowed := newLine }

/-- Whether a plain scalar can begin with the character that is next. -/
def startsPlain (s : Scan) (c : Char) : Bool :=
  let marks := ['-', '?', ':', ',', '[', ']', '\x7b', '\x7d', '#', '&', '*', '!', '|', '>', '\'',
    '"', '%', '@', '\x60', '\t']
  !marks.contains c || (c == '-' && !(s.source.peek? 1).any isSpace) ||
    (!s.inFlow && (c == '?' || c == ':') && !s.source.gapAt 1)

/-- Reads one token that begins with the character `c`. -/
def token (s : Scan) (c : Char) : Option Scan :=
  let gap := s.source.gapAt 1
  if s.source.column == 0 && c == '%' then do
    let s ← (s.unroll 0).dropKey
    some (s.finish (← readDirective s.source))
  else if s.source.marker '-' then s.documentToken .documentStart
  else if s.source.marker '.' then s.documentToken .documentEnd
  else match c with
    | '[' => s.openFlow .flowSequenceStart
    | '{' => s.openFlow .flowMappingStart
    | ']' => s.closeFlow .flowSequenceEnd
    | '}' => s.closeFlow .flowMappingEnd
    | ',' => s.flowEntry
    | '*' => do
      let s ← s.saveKey
      let (name, after) ← readAnchor s.source
      some (s.finish (.alias name, after))
    | '&' => do
      let s ← s.saveKey
      let (name, after) ← readAnchor s.source
      some (s.finish (.anchor name, after))
    | '!' => do
      let s ← s.saveKey
      some (s.finish (← readTag s.inFlow s.source))
    | '\'' => s.quoted '\''
    | '"' => s.quoted '"'
    | c =>
      if c == '-' && gap then s.blockEntry
      else if c == '?' && (s.inFlow || gap) then s.keyMark
      else if c == ':' && (s.inFlow || gap) then s.valueMark
      else if c == '|' && !s.inFlow then s.block false
      else if c == '>' && !s.inFlow then s.block true
      else if s.startsPlain c then s.plain
      else none

/-- The tokens of the rest of the text after those read so far. -/
def run : (fuel : Nat) → Scan → Option (List Token)
  | 0, _ => none
  | fuel + 1, s => do
    let s ← (s.skipGap (s.source.rest.length + 1)).dropStale
    let s := s.unroll (s.source.column + 1)
    match s.source.rest with
    | [] =>
      let s ← (s.unroll 0).dropKey
      some s.tokens.reverse
    | c :: _ => do
      let s ← s.token c
      run fuel s

end Scan

/-- The tokens of a text. A byte order mark at its beginning is skipped. -/
def Token.ofText? (text : List Char) : Option (List Token) :=
  let text := match text with
    | '\uFEFF' :: cs => cs
    | cs => cs
  if text.all isAllowed then (Scan.start text).run (text.length + 1) else none

end Readiness.Yaml
