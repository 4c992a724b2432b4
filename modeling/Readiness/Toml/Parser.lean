import Readiness.Toml.Basic
import Readiness.Toml.Scalar

/-!
# Reading TOML

`Toml.parse?` reads a document; a text with any mistake in it is no document.
-/

namespace Readiness.Toml

/-! ## Blanks, comments and line ends -/

def dropSpaces (cs : List Char) : List Char := cs.dropWhile fun c => c == ' ' || c == '\t'

/-- Whether a character can stand in comments and strings: no control character but the tab. -/
def isPlain (c : Char) : Bool := c == '\t' || (0x20 ≤ c.toNat && c.toNat != 0x7F)

/-- Drops a comment up to the end of its line. -/
def dropComment : List Char → List Char
  | '#' :: cs => cs.dropWhile isPlain
  | cs => cs

def lineEnd? : List Char → Option (List Char)
  | '\n' :: cs => some cs
  | '\r' :: '\n' :: cs => some cs
  | _ => none

def dropLines : (fuel : Nat) → List Char → List Char
  | 0, cs => cs
  | fuel + 1, cs =>
    let rest := dropComment (dropSpaces cs)
    match lineEnd? rest with
    | some after => dropLines fuel after
    | none => rest

/-- The text after the blanks and the comment that end a line. -/
def endLine? (cs : List Char) : Option (List Char) :=
  match dropComment (dropSpaces cs) with
  | [] => some []
  | rest => lineEnd? rest

/-! ## Strings -/

/-- Reads the character with the code point of `n` hexadecimal digits. -/
def readCodePoint (n : Nat) (cs : List Char) : Option (Char × List Char) :=
  let digits := cs.take n
  let code := digitsValue 16 digits
  if digits.length == n && digits.all (isDigitIn 16) && code.isValidChar then
    some (Char.ofNat code, cs.drop n)
  else none

/-- Reads what follows a backslash. -/
def readEscape : List Char → Option (Char × List Char)
  | 'b' :: cs => some ('\x08', cs)
  | 't' :: cs => some ('\t', cs)
  | 'n' :: cs => some ('\n', cs)
  | 'f' :: cs => some ('\x0c', cs)
  | 'r' :: cs => some ('\r', cs)
  | 'e' :: cs => some ('\x1b', cs)
  | '"' :: cs => some ('"', cs)
  | '\\' :: cs => some ('\\', cs)
  | 'x' :: cs => readCodePoint 2 cs
  | 'u' :: cs => readCodePoint 4 cs
  | 'U' :: cs => readCodePoint 8 cs
  | _ => none

/-- Reads a string of one line up to its closing quote; `out` is its text so far, the last
character first. Only double quotes allow escapes. -/
def readShort (quote : Char) : (fuel : Nat) → (out : List Char) → List Char →
    Option (List Char × List Char)
  | 0, _, _ => none
  | _, _, [] => none
  | fuel + 1, out, c :: cs =>
    if c == quote then some (out.reverse, cs)
    else if c == '\\' && quote == '"' then
      match readEscape cs with
      | some (d, after) => readShort quote fuel (d :: out) after
      | none => none
    else if isPlain c then readShort quote fuel (c :: out) cs
    else none

/-- The text after a backslash at the end of a line, if only blanks follow it there: all blanks and
line ends up to the next character are dropped. -/
def continued? (cs : List Char) : Option (List Char) :=
  let isGap (c : Char) := c == ' ' || c == '\t' || c == '\n' || c == '\r'
  (lineEnd? (dropSpaces cs)).map fun after => after.dropWhile isGap

/-- Reads a string of several lines up to its three closing quotes. Up to two quotes more belong to
the string. -/
def readLong (quote : Char) : (fuel : Nat) → (out : List Char) → List Char →
    Option (List Char × List Char)
  | 0, _, _ => none
  | _, _, [] => none
  | fuel + 1, out, c :: cs =>
    if c == quote then
      let quotes := (c :: cs).takeWhile (· == quote)
      let n := quotes.length
      if n < 3 then readLong quote fuel (c :: out) cs
      else if n ≤ 5 then some ((List.replicate (n - 3) quote ++ out).reverse, (c :: cs).drop n)
      else none
    else if c == '\\' && quote == '"' then
      match continued? cs with
      | some after => readLong quote fuel out after
      | none =>
        match readEscape cs with
        | some (d, after) => readLong quote fuel (d :: out) after
        | none => none
    else if isPlain c then readLong quote fuel (c :: out) cs
    else match lineEnd? (c :: cs) with
      | some after => readLong quote fuel ('\n' :: out) after
      | none => none

def readString (cs : List Char) : Option (List Char × List Char) :=
  let long (quote : Char) (rest : List Char) :=
    readLong quote (rest.length + 1) [] ((lineEnd? rest).getD rest)
  match cs with
  | '"' :: '"' :: '"' :: rest => long '"' rest
  | '\'' :: '\'' :: '\'' :: rest => long '\'' rest
  | '"' :: rest => readShort '"' (rest.length + 1) [] rest
  | '\'' :: rest => readShort '\'' (rest.length + 1) [] rest
  | _ => none

/-! ## Keys -/

/-- Whether a character can stand in a key without quotes. -/
def isBare (c : Char) : Bool := c.isAlphanum || c == '_' || c == '-'

def readKeyPart (cs : List Char) : Option (String × List Char) :=
  match cs with
  | '"' :: rest => (readShort '"' (rest.length + 1) [] rest).map fun r => (String.ofList r.1, r.2)
  | '\'' :: rest => (readShort '\'' (rest.length + 1) [] rest).map fun r => (String.ofList r.1, r.2)
  | cs =>
    let part := cs.takeWhile isBare
    if part.isEmpty then none else some (String.ofList part, cs.dropWhile isBare)

/-- Reads a key of parts between dots, and the blanks after it. -/
def readKey : (fuel : Nat) → List Char → Option (List String × List Char)
  | 0, _ => none
  | fuel + 1, cs => do
    let (part, rest) ← readKeyPart (dropSpaces cs)
    match dropSpaces rest with
    | '.' :: more => do
      let (parts, after) ← readKey fuel more
      some (part :: parts, after)
    | after => some ([part], after)

/-! ## Values -/

def endsWord (c : Char) : Bool :=
  c == ' ' || c == '\t' || c == '\n' || c == '\r' || c == ',' || c == ']' || c == '\x7d' || c == '#'

/-- Reads a number, a truth value or a time. A blank may stand between a date and a time. -/
def readScalar (cs : List Char) : Option (Toml × List Char) :=
  let word := cs.takeWhile (!endsWord ·)
  let rest := cs.dropWhile (!endsWord ·)
  let more := match rest with
    | ' ' :: d :: after => if isDate word && d.isDigit then some (d :: after) else none
    | _ => none
  match more with
  | some after =>
    let time := after.takeWhile (!endsWord ·)
    if isScalar (word ++ ' ' :: time) then some (.scalar, after.dropWhile (!endsWord ·)) else none
  | none => if isScalar word then some (.scalar, rest) else none

mutual

def readValue : (fuel : Nat) → List Char → Option (Toml × List Char)
  | 0, _ => none
  | fuel + 1, cs =>
    match cs with
    | '"' :: _ => (readString cs).map fun r => (.text (String.ofList r.1), r.2)
    | '\'' :: _ => (readString cs).map fun r => (.text (String.ofList r.1), r.2)
    | '[' :: rest => readItems fuel [] rest
    | '{' :: rest => readMembers fuel [] rest
    | cs => readScalar cs

/-- Reads the rest of a list; `items` are those read so far, the last one first. -/
def readItems : (fuel : Nat) → (items : List Toml) → List Char → Option (Toml × List Char)
  | 0, _, _ => none
  | fuel + 1, items, cs =>
    match dropLines (cs.length + 1) cs with
    | ']' :: after => some (.list items.reverse, after)
    | rest => do
      let (item, rest) ← readValue fuel rest
      match dropLines (rest.length + 1) rest with
      | ',' :: more => readItems fuel (item :: items) more
      | ']' :: after => some (.list (item :: items).reverse, after)
      | _ => none

/-- Reads the rest of a table in braces; `ms` are the members read so far. -/
def readMembers : (fuel : Nat) → Members → List Char → Option (Toml × List Char)
  | 0, _, _ => none
  | fuel + 1, ms, cs =>
    match dropLines (cs.length + 1) cs with
    | '}' :: after => some (.table .braces ms, after)
    | rest => do
      let (key, rest) ← readKey (rest.length + 1) rest
      match rest with
      | '=' :: rest => do
        let (value, rest) ← readValue fuel (dropSpaces rest)
        let ms ← setKey key value ms
        match dropLines (rest.length + 1) rest with
        | ',' :: more => readMembers fuel ms more
        | '}' :: after => some (.table .braces ms, after)
        | _ => none
      | _ => none

end

/-! ## Documents -/

/-- Reads a key with its value into the table at `path`. -/
def readSetting (path : List String) (root : Members) (cs : List Char) :
    Option (Members × List Char) := do
  let (key, rest) ← readKey (cs.length + 1) cs
  match rest with
  | '=' :: rest => do
    let (value, after) ← readValue (2 * rest.length + 2) (dropSpaces rest)
    let root ← changeAt (setKey key value) path root
    some (root, after)
  | _ => none

/-- Reads the lines of a document after those that made `root`; `path` is the table that keys belong
to. -/
def readLines : (fuel : Nat) → (path : List String) → (root : Members) → List Char → Option Members
  | 0, _, _, _ => none
  | fuel + 1, path, root, cs =>
    match dropLines (cs.length + 1) cs with
    | [] => some root
    | '[' :: '[' :: rest => do
      let (key, rest) ← readKey (rest.length + 1) rest
      match rest with
      | ']' :: ']' :: rest => do
        let root ← openRow key root
        readLines fuel key root (← endLine? rest)
      | _ => none
    | '[' :: rest => do
      let (key, rest) ← readKey (rest.length + 1) rest
      match rest with
      | ']' :: rest => do
        let root ← openTable key root
        readLines fuel key root (← endLine? rest)
      | _ => none
    | rest => do
      let (root, rest) ← readSetting path root rest
      readLines fuel path root (← endLine? rest)

/-- Reads a document. A byte order mark at its beginning is skipped. -/
def parse? (text : List Char) : Option Members :=
  let cs := match text with
    | '\uFEFF' :: cs => cs
    | cs => cs
  readLines (cs.length + 1) [] [] cs

end Readiness.Toml
