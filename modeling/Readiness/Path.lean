import Readiness.Text.Blank

/-!
# Path spellings

Paths are texts, and the operations here look at the spelling only: no file is consulted, and `..`
is a component like any other.

* `Path.join` appends a path to another.
* `Path.parent?` drops the last component.
* `Path.ancestors` is the chain of a path and its parents.
* `Path.extension?` is the part of the last component after its last dot.
-/

namespace Readiness.Path

/-- What a path begins with: the root, an explicit `.`, or a component. -/
inductive Head where
  | root
  | here
  | component
  deriving DecidableEq

def Head.text : Head → List Char
  | .root => ['/']
  | .here => ['.']
  | .component => []

/-- A path cut at its separators: its beginning, and the segments after it, the last one first.
Empty segments and `.` segments are kept as they are written. -/
structure Parts where
  head : Head
  segments : List (List Char)

namespace Parts

def ofText (path : List Char) : Parts :=
  match path with
  | '/' :: rest => ⟨.root, (Text.splitAt '/' rest).reverse⟩
  | ['.'] => ⟨.here, []⟩
  | '.' :: '/' :: rest => ⟨.here, (Text.splitAt '/' ('/' :: rest)).reverse⟩
  | path => ⟨.component, (Text.splitAt '/' path).reverse⟩

def text (p : Parts) : List Char := p.head.text ++ Text.joinWith ['/'] p.segments.reverse

/-- Whether a segment names nothing: it is empty or `.`. -/
def isVoid (segment : List Char) : Bool := segment.isEmpty || segment == ['.']

/-- The parts without the segments at the end that name nothing. -/
def trimmed (p : Parts) : Parts := { p with segments := p.segments.dropWhile isVoid }

def parent? (p : Parts) : Option Parts :=
  match p.trimmed.segments, p.head with
  | _ :: above, head => some (Parts.mk head above).trimmed
  | [], .here => some ⟨.component, []⟩
  | [], _ => none

/-- The last component, unless it is `..` or there is none. -/
def name? (p : Parts) : Option (List Char) :=
  match p.trimmed.segments with
  | [] => none
  | s :: _ => if s == ['.', '.'] then none else some s

end Parts

/-- The path without its last component. A relative path of one component has the empty path as its
parent; the root and the empty path have none. -/
def parent? (path : String) : Option String :=
  (Parts.ofText path.toList).parent?.map fun p => String.ofList p.text

/-- A path, its parent, the parent of that, and so on, at most `fuel` of them. -/
def chain : (fuel : Nat) → String → List String
  | 0, _ => []
  | fuel + 1, path =>
    path :: match parent? path with
      | none => []
      | some p => chain fuel p

/-- A path, its parent, the parent of that, and so on. Each is shorter than the one before. -/
def ancestors (path : String) : List String := chain (path.length + 1) path

def isAbsolute (path : String) : Bool := path.toList.head? == some '/'

/-- The path `p` as seen from the path `base`. -/
def join (base p : String) : String :=
  if isAbsolute p || base.isEmpty then p
  else if base.toList.getLast? == some '/' then base ++ p
  else base ++ "/" ++ p

/-- The part of a name after its last dot, unless that dot is its first character. -/
def extensionOf? (name : List Char) : Option (List Char) :=
  let back := name.reverse
  match back.dropWhile (· != '.') with
  | [] => none
  | [_] => none
  | _ :: _ => some (back.takeWhile (· != '.')).reverse

/-- The extension of the last component of a path. -/
def extension? (path : String) : Option String :=
  (Parts.ofText path.toList).name?.bind fun n => (extensionOf? n).map String.ofList

end Readiness.Path
