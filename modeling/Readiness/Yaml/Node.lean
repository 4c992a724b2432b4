import Readiness.Yaml.Token

/-!
# YAML documents

The tree of a document, with aliases replaced by what they stand for.

* `Yaml.ofTokens?` reads the tokens of a stream with at most one document.
* `Yaml.parse?` reads a text.
-/

namespace Readiness

/-- A node of a document. -/
inductive Yaml where
  /-- A scalar; `plain` if it was written without quotes and not as a block. -/
  | scalar (text : String) (plain : Bool) (tag : Option String)
  | sequence (items : List Yaml)
  | mapping (members : List (Yaml × Yaml))
  /-- An alias for a node that it is itself a part of. -/
  | cycle

namespace Yaml

/-- The node that stands where nothing is written. -/
def blank : Yaml := .scalar "" true none

/-- What reading a document depends on: the tags that handles stand for, and the nodes that have
been named. -/
structure Names where
  handles : List (String × String)
  anchors : List (String × Yaml)

/-- What readers yield: a result with the named nodes and the tokens after it. -/
abbrev Step (α : Type) := Option (α × Names × List Token)

def Names.tag? (names : Names) (handle suffix : String) : Option String :=
  if handle.isEmpty then some suffix
  else (names.handles.lookup handle).map (· ++ suffix)

def Names.add (names : Names) (anchor : Option String) (node : Yaml) : Names :=
  match anchor with
  | none => names
  | some a => { names with anchors := (a, node) :: names.anchors }

/-- The anchor and the tag of a node, which stand before it in any order. -/
structure Properties where
  anchor : Option String
  tag : Option (String × String)

def readProperties : List Token → Properties × List Token
  | .anchor a :: .tag h s :: ts => (⟨some a, some (h, s)⟩, ts)
  | .tag h s :: .anchor a :: ts => (⟨some a, some (h, s)⟩, ts)
  | .anchor a :: ts => (⟨some a, none⟩, ts)
  | .tag h s :: ts => (⟨none, some (h, s)⟩, ts)
  | ts => (⟨none, none⟩, ts)

def Properties.tag? (p : Properties) (names : Names) : Option (Option String) :=
  match p.tag with
  | none => some none
  | some (h, s) => (names.tag? h s).map some

/-- Where a node stands, which decides which token can follow instead of it. -/
inductive Place where
  /-- After a hyphen of a block sequence. -/
  | blockEntry
  /-- After a hyphen of a sequence that is not indented. -/
  | plainEntry
  /-- After a mark in a block mapping. -/
  | blockMember
  /-- After a key mark within brackets or braces. -/
  | flowKey
  /-- After a value mark within brackets. -/
  | listValue
  /-- After a value mark within braces. -/
  | flowValue
  /-- At the top of a document. -/
  | document
  deriving DecidableEq

/-- Whether the tokens say that nothing is written at the place. -/
def Place.isBlank (p : Place) (ts : List Token) : Bool :=
  match ts, p with
  | [], _ => p == .document
  | .blockEntry :: _, p => p == .blockEntry || p == .plainEntry
  | .blockEnd :: _, p => p == .blockEntry || p == .plainEntry || p == .blockMember
  | .key :: _, p => p == .plainEntry || p == .blockMember
  | .value :: _, p => p == .plainEntry || p == .blockMember || p == .flowKey
  | .flowEntry :: _, p => p == .flowKey || p == .listValue || p == .flowValue
  | .flowMappingEnd :: _, p => p == .flowKey || p == .flowValue
  | .flowSequenceEnd :: _, p => p == .listValue
  | .version _ _ :: _, p => p == .document
  | .tagHandle _ _ :: _, p => p == .document
  | .documentStart :: _, p => p == .document
  | .documentEnd :: _, p => p == .document
  | _, _ => false

def named (p : Properties) (r : Step Yaml) : Step Yaml :=
  r.map fun (n, names, rest) => (n, names.add p.anchor n, rest)

/-- Properties without a node after them are those of an empty scalar. -/
def bare (p : Properties) (tag : Option String) (names : Names) (rest : List Token) : Step Yaml :=
  if p.anchor.isNone && p.tag.isNone then none
  else
    let n := Yaml.scalar "" true tag
    some (n, names.add p.anchor n, rest)

/-- A sequence with one more item before the others. -/
def consItem (n : Yaml) (r : Step Yaml) : Step Yaml :=
  match r with
  | some (.sequence items, names, rest) => some (.sequence (n :: items), names, rest)
  | _ => none

/-- A mapping with one more member before the others. -/
def consMember (k v : Yaml) (r : Step Yaml) : Step Yaml :=
  match r with
  | some (.mapping members, names, rest) => some (.mapping ((k, v) :: members), names, rest)
  | _ => none

mutual

/-- Reads a node. Block collections are allowed if `block`, and sequences that are not indented if
`loose`. -/
def readNode : (fuel : Nat) → (block loose : Bool) → Names → List Token → Step Yaml
  | 0, _, _, _, _ => none
  | fuel + 1, block, loose, names, ts =>
    match ts with
    | .alias a :: rest => (names.anchors.lookup a).map fun n => (n, names, rest)
    | ts =>
      match readProperties ts with
      | (p, rest) =>
        match p.tag? names with
        | none => none
        | some tag =>
          match rest with
          | .scalar text plain :: rest =>
            let n := Yaml.scalar text plain tag
            some (n, names.add p.anchor n, rest)
          | .flowSequenceStart :: rest =>
            named p (readList fuel true (names.add p.anchor .cycle) rest)
          | .flowMappingStart :: rest =>
            named p (readMap fuel true (names.add p.anchor .cycle) rest)
          | .blockSequenceStart :: rest =>
            if block then named p (readEntries fuel (names.add p.anchor .cycle) rest) else none
          | .blockMappingStart :: rest =>
            if block then named p (readPairs fuel (names.add p.anchor .cycle) rest) else none
          | .blockEntry :: _ =>
            if loose then named p (readLoose fuel (names.add p.anchor .cycle) rest)
            else bare p tag names rest
          | rest => bare p tag names rest

/-- Reads a node or nothing at a place. -/
def readAt : (fuel : Nat) → Place → Names → List Token → Step Yaml
  | 0, _, _, _ => none
  | fuel + 1, place, names, ts =>
    if place.isBlank ts then some (blank, names, ts)
    else
      match place with
      | .blockEntry => readNode fuel true false names ts
      | .plainEntry => readNode fuel true false names ts
      | .blockMember => readNode fuel true true names ts
      | .document => readNode fuel true false names ts
      | _ => readNode fuel false false names ts

/-- Reads the entries of a block sequence up to its end. -/
def readEntries : (fuel : Nat) → Names → List Token → Step Yaml
  | 0, _, _ => none
  | fuel + 1, names, ts =>
    match ts with
    | .blockEnd :: rest => some (.sequence [], names, rest)
    | .blockEntry :: rest =>
      match readAt fuel .blockEntry names rest with
      | none => none
      | some (n, names, rest) => consItem n (readEntries fuel names rest)
    | _ => none

/-- Reads the entries of a sequence that is not indented. -/
def readLoose : (fuel : Nat) → Names → List Token → Step Yaml
  | 0, _, _ => none
  | fuel + 1, names, ts =>
    match ts with
    | .blockEntry :: rest =>
      match readAt fuel .plainEntry names rest with
      | none => none
      | some (n, names, rest) => consItem n (readLoose fuel names rest)
    | rest => some (.sequence [], names, rest)

/-- Reads the members of a block mapping up to its end. -/
def readPairs : (fuel : Nat) → Names → List Token → Step Yaml
  | 0, _, _ => none
  | fuel + 1, names, ts =>
    match ts with
    | .blockEnd :: rest => some (.mapping [], names, rest)
    | .key :: rest =>
      match readAt fuel .blockMember names rest with
      | none => none
      | some (k, names, rest) => readPairValue fuel k names rest
    | _ => none

/-- Reads the value of a member of a block mapping and the members after it. -/
def readPairValue : (fuel : Nat) → (k : Yaml) → Names → List Token → Step Yaml
  | 0, _, _, _ => none
  | fuel + 1, k, names, ts =>
    match ts with
    | .value :: rest =>
      match readAt fuel .blockMember names rest with
      | none => none
      | some (v, names, rest) => consMember k v (readPairs fuel names rest)
    | rest => consMember k blank (readPairs fuel names rest)

/-- Reads the items of a list in brackets. -/
def readList : (fuel : Nat) → (first : Bool) → Names → List Token → Step Yaml
  | 0, _, _, _ => none
  | fuel + 1, first, names, ts =>
    match ts, first with
    | .flowSequenceEnd :: rest, _ => some (.sequence [], names, rest)
    | .flowEntry :: rest, false => readListItem fuel names rest
    | _, false => none
    | rest, true => readListItem fuel names rest

/-- Reads an item of a list in brackets and the items after it. An item may be a single member of a
mapping. -/
def readListItem : (fuel : Nat) → Names → List Token → Step Yaml
  | 0, _, _ => none
  | fuel + 1, names, ts =>
    match ts with
    | .flowSequenceEnd :: rest => some (.sequence [], names, rest)
    | .key :: rest =>
      match readSingleKey fuel names rest with
      | none => none
      | some ((k, v), names, rest) =>
        consItem (.mapping [(k, v)]) (readList fuel false names rest)
    | rest =>
      match readNode fuel false false names rest with
      | none => none
      | some (n, names, rest) => consItem n (readList fuel false names rest)

/-- Reads a single member in a list after the mark for its key. Where the key is missing, the token
in its place is passed over. -/
def readSingleKey : (fuel : Nat) → Names → List Token → Step (Yaml × Yaml)
  | 0, _, _ => none
  | fuel + 1, names, ts =>
    match ts with
    | .value :: rest => readSingleValue fuel blank names rest
    | .flowEntry :: rest => readSingleValue fuel blank names rest
    | .flowSequenceEnd :: rest => readSingleValue fuel blank names rest
    | rest =>
      match readNode fuel false false names rest with
      | none => none
      | some (k, names, rest) => readSingleValue fuel k names rest

/-- Reads the value of a single member in a list. -/
def readSingleValue : (fuel : Nat) → (k : Yaml) → Names → List Token → Step (Yaml × Yaml)
  | 0, _, _, _ => none
  | fuel + 1, k, names, ts =>
    match ts with
    | .value :: rest =>
      match readAt fuel .listValue names rest with
      | none => none
      | some (v, names, rest) => some ((k, v), names, rest)
    | rest => some ((k, blank), names, rest)

/-- Reads the members of a mapping in braces. -/
def readMap : (fuel : Nat) → (first : Bool) → Names → List Token → Step Yaml
  | 0, _, _, _ => none
  | fuel + 1, first, names, ts =>
    match ts, first with
    | .flowMappingEnd :: rest, _ => some (.mapping [], names, rest)
    | .flowEntry :: rest, false => readMember fuel names rest
    | _, false => none
    | rest, true => readMember fuel names rest

/-- Reads a member of a mapping in braces and the members after it. -/
def readMember : (fuel : Nat) → Names → List Token → Step Yaml
  | 0, _, _ => none
  | fuel + 1, names, ts =>
    match ts with
    | .flowMappingEnd :: rest => some (.mapping [], names, rest)
    | .key :: rest =>
      match readAt fuel .flowKey names rest with
      | none => none
      | some (k, names, rest) => readMemberValue fuel k names rest
    | rest =>
      match readNode fuel false false names rest with
      | none => none
      | some (k, names, rest) => consMember k blank (readMap fuel false names rest)

/-- Reads the value of a member of a mapping in braces and the members after it. -/
def readMemberValue : (fuel : Nat) → (k : Yaml) → Names → List Token → Step Yaml
  | 0, _, _, _ => none
  | fuel + 1, k, names, ts =>
    match ts with
    | .value :: rest =>
      match readAt fuel .flowValue names rest with
      | none => none
      | some (v, names, rest) => consMember k v (readMap fuel false names rest)
    | rest => consMember k blank (readMap fuel false names rest)

end

/-! ## Streams -/

def defaultHandles : List (String × String) := [("!", "!"), ("!!", "tag:yaml.org,2002:")]

/-- Reads directives: handles for tags, each once, and at most one known version. -/
def readDirectives : (handles : List (String × String)) → (version : Bool) → List Token →
    Option (List (String × String) × List Token)
  | handles, version, .version major minor :: ts =>
    if version || major != 1 || (minor != 1 && minor != 2) then none
    else readDirectives handles true ts
  | handles, version, .tagHandle handle lead :: ts =>
    if (handles.lookup handle).isSome then none
    else readDirectives ((handle, lead) :: handles) version ts
  | handles, _, ts => some (handles, ts)

/-- The tokens after the mark for the end of a document, if it is there. -/
def afterDocument : List Token → List Token
  | .documentEnd :: ts => ts.dropWhile fun | .documentEnd => true | _ => false
  | ts => ts

/-- Reads one document that must be the only one. -/
def readDocument (handles : List (String × String)) (ts : List Token) : Option Yaml := do
  let (n, _, rest) ← readAt (4 * ts.length + 8) .document ⟨handles ++ defaultHandles, []⟩ ts
  if (afterDocument rest).isEmpty then some n else none

/-- The document of the tokens of a stream; an empty stream counts as an empty document. -/
def ofTokens? (ts : List Token) : Option Yaml := do
  let (handles, rest) ← readDirectives [] false ts
  match rest with
  | [] => if ts.isEmpty then some blank else none
  | .documentStart :: rest => readDocument handles rest
  | rest =>
    if ts.length == rest.length then
      match rest with
      | .documentEnd :: _ => none
      | rest => readDocument handles rest
    else none

def parse? (text : List Char) : Option Yaml := (Token.ofText? text).bind ofTokens?

end Yaml

end Readiness
