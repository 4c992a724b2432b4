import Readiness.Path

/-!
# Files and folders

A disk is a tree of files, links and folders together with a working folder. Paths are resolved
component by component: `..` leads to the folder that holds the one reached so far, and links are
followed wherever they stand.

* `Disk.resolve` is the place that a path leads to, as the names from the root of the tree.
* `Disk.node?` is what stands there.
* `Node.put` and `Node.erase` change a tree.
-/

namespace Readiness

/-- A file, a symbolic link or a folder. -/
inductive Node where
  /-- A file with its bytes, or without if it cannot be read. -/
  | file (content : Option (List UInt8))
  | link (target : String)
  | folder (entries : List (String × Node))

namespace Node

/-- The entry of that name, if the node is a folder that has one. -/
def child? : Node → String → Option Node
  | .folder entries, name => entries.lookup name
  | _, _ => none

/-- The node that the names lead to. Links are not followed. -/
def at? : Node → List String → Option Node
  | n, [] => some n
  | n, name :: names => (n.child? name).bind (at? · names)

/-- The entries with the one of that name replaced, or with a new one at the end. -/
def setEntry (name : String) (new : Node) : List (String × Node) → List (String × Node)
  | [] => [(name, new)]
  | e :: es => if e.1 == name then (name, new) :: es else e :: setEntry name new es

/-- The tree with `new` at the place that the names lead to. Missing folders are made. -/
def put : Node → (names : List String) → (new : Node) → Node
  | _, [], new => new
  | n, name :: names, new =>
    let entries := match n with
      | .folder entries => entries
      | _ => []
    .folder (setEntry name (put ((entries.lookup name).getD (.folder [])) names new) entries)

/-- The tree without the node at the place that the names lead to. -/
def erase : Node → (names : List String) → Node
  | .folder entries, [name] => .folder (entries.filter (·.1 != name))
  | .folder entries, name :: names =>
    .folder (entries.map fun e => if e.1 == name then (name, erase e.2 names) else e)
  | n, _ => n

end Node

/-- Why a path leads nowhere. -/
inductive PathFault where
  /-- A component does not exist. -/
  | missing
  /-- A component that should be a folder is none. -/
  | notFolder
  /-- The path leads to a folder where a file is wanted. -/
  | isFolder
  deriving DecidableEq

/-- The wording of a fault, as operating systems give it. -/
def PathFault.message : PathFault → String
  | .missing => "No such file or directory (os error 2)"
  | .notFolder => "Not a directory (os error 20)"
  | .isFolder => "Is a directory (os error 21)"

/-- A tree of files with the place of the working folder. -/
structure Disk where
  root : Node
  here : List String

namespace Disk

/-- The greatest number of links that one path may lead through. -/
def linkLimit : Nat := 40

/-- The segments of a path between its separators. -/
def segments (path : String) : List String := (Text.splitAt '/' path.toList).map String.ofList

/-- Where the segments lead from the place `here`; `onLink` continues at a link in a folder with the
segments that remain. -/
def walk (root : Node) (onLink : (folder rest : List String) → Except PathFault (List String)) :
    (here : List String) → (rest : List String) → Except PathFault (List String)
  | here, [] => .ok here
  | here, s :: rest =>
    match root.at? here with
    | some (.folder entries) =>
      if s == "" || s == "." then walk root onLink here rest
      else if s == ".." then walk root onLink here.dropLast rest
      else match entries.lookup s with
        | none => .error .missing
        | some (.link target) =>
          let rest := segments target ++ rest
          onLink (if Path.isAbsolute target then [] else here) rest
        | some _ => walk root onLink (here ++ [s]) rest
    | _ => .error .notFolder

/-- Where the segments lead from the place `here` through at most `links` links. -/
def resolveFrom (root : Node) : (links : Nat) → (here rest : List String) →
    Except PathFault (List String)
  | 0 => walk root fun _ _ => .error .missing
  | links + 1 => walk root (resolveFrom root links)

/-- The place that a path leads to. The empty path leads nowhere. -/
def resolve (d : Disk) (path : String) : Except PathFault (List String) :=
  if path.isEmpty then .error .missing
  else resolveFrom d.root linkLimit (if Path.isAbsolute path then [] else d.here) (segments path)

def node? (d : Disk) (path : String) : Option Node :=
  match d.resolve path with
  | .ok names => d.root.at? names
  | .error _ => none

def «exists» (d : Disk) (path : String) : Bool := (d.node? path).isSome

/-- The bytes of the file that the path leads to. -/
def read? (d : Disk) (path : String) : Option (List UInt8) :=
  match d.node? path with
  | some (.file content) => content
  | _ => none

/-- The spelling of a place from the root, without `.`, `..` and links. -/
def canonical (names : List String) : String :=
  if names.isEmpty then "/" else String.join (names.map ("/" ++ ·))

/-! ## Writing -/

/-- The place of the file that writing to the segments creates or replaces. -/
def writePlace (root : Node) : (links : Nat) → (here segments : List String) →
    Except PathFault (List String)
  | links, here, segments => do
    let core := (segments.reverse.dropWhile (· == "")).reverse
    match core.getLast? with
    | none => .error .isFolder
    | some last =>
      if last == "." || last == ".." then
        let _ ← resolveFrom root linkLimit here segments
        .error .isFolder
      else
        let folder ← resolveFrom root linkLimit here core.dropLast
        match root.at? folder with
        | some (.folder entries) =>
          if core.length != segments.length then .error .isFolder
          else match entries.lookup last, links with
            | some (.folder _), _ => .error .isFolder
            | some (.link target), links + 1 =>
              writePlace root links (if Path.isAbsolute target then [] else folder)
                (Disk.segments target)
            | some (.link _), 0 => .error .missing
            | _, _ => .ok (folder ++ [last])
        | _ => .error .notFolder

def write (d : Disk) (path : String) (content : List UInt8) : Except PathFault Disk :=
  if path.isEmpty then .error .missing
  else do
    let start := if Path.isAbsolute path then [] else d.here
    let names ← writePlace d.root linkLimit start (segments path)
    .ok { d with root := d.root.put names (.file (some content)) }

end Disk

end Readiness
