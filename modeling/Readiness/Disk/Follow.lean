import Readiness.Disk.Basic

/-!
# Trees without links

A folder as it appears when all links in it are followed, and the files in it.

* `Disk.followed?` is the node at a place with every link replaced by what it leads to.
* `Node.files` lists the regular files of a tree by their paths in it.
-/

namespace Readiness

namespace Node

mutual

/-- The node at the place `names` with every link replaced by `onLink`, which is given the place of
the link and its target. Links that lead nowhere are left out. -/
def follow (onLink : (names : List String) → (target : String) → Option Node)
    (names : List String) : Node → Option Node
  | .file content => some (.file content)
  | .link target => onLink names target
  | .folder entries => some (.folder (followEntries onLink names entries))

/-- The entries of the folder at the place `names` with every link in them replaced. -/
def followEntries (onLink : (names : List String) → (target : String) → Option Node)
    (names : List String) : List (String × Node) → List (String × Node)
  | [] => []
  | (name, n) :: es =>
    match follow onLink (names ++ [name]) n with
    | some m => (name, m) :: followEntries onLink names es
    | none => followEntries onLink names es

end

mutual

/-- The regular files of the tree with their paths, where `path` is the path of the tree itself. -/
def filesAt (path : String) : Node → List (String × Option (List UInt8))
  | .file content => [(path, content)]
  | .link _ => []
  | .folder entries => filesIn (if path.isEmpty then "" else path ++ "/") entries

/-- The regular files of the entries, whose paths begin with `lead`. -/
def filesIn (lead : String) : List (String × Node) → List (String × Option (List UInt8))
  | [] => []
  | (name, n) :: es => filesAt (lead ++ name) n ++ filesIn lead es

end

/-- The regular files in a folder by their paths in it. -/
def files : Node → List (String × Option (List UInt8))
  | .folder entries => filesIn "" entries
  | _ => []

end Node

namespace Disk

/-- The node at a place with the links in it followed, at most `links` of them in a row. -/
def followWithin (root : Node) : (links : Nat) → (names : List String) → Option Node
  | 0, names => (root.at? names).bind (Node.follow (fun _ _ => none) names)
  | links + 1, names =>
    (root.at? names).bind <| Node.follow (fun names target =>
      let start := if Path.isAbsolute target then [] else names.dropLast
      match resolveFrom root linkLimit start (segments target) with
      | .ok place => followWithin root links place
      | .error _ => none) names

/-- The node at a place with all links in it followed. -/
def followed? (d : Disk) (names : List String) : Option Node :=
  followWithin d.root linkLimit names

end Disk

end Readiness
