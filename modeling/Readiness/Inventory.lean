import Readiness.Disk.Follow
import Readiness.Glob
import Readiness.Text.Lines
import Readiness.Text.Utf8

/-!
# The files of a source tree

Which files of a tree are analysed, in which order, and how many there are.

* `Category.ofPath?` classifies a path by its extension.
* `Inventory.collect` lists the classified files that no exclusion covers, by path.
* `FileStats` counts files and lines.
-/

namespace Readiness

/-- The kind of a source file. -/
inductive Category where
  | c
  | cpp
  | header
  deriving DecidableEq

namespace Category

/-- The kind of the files with that extension. The case of the extension matters. -/
def ofExtension? : String → Option Category
  | "c" => some .c
  | "cpp" => some .cpp
  | "cc" => some .cpp
  | "cxx" => some .cpp
  | "h" => some .header
  | "hpp" => some .header
  | _ => none

/-- The kind of the file at a path. -/
def ofPath? (path : String) : Option Category := (Path.extension? path).bind ofExtension?

/-- Whether files of the kind are translated by themselves, as headers are not. -/
def isSource : Category → Bool
  | .header => false
  | _ => true

def label : Category → String
  | .c => "c"
  | .cpp => "cpp"
  | .header => "h"

end Category

/-- A file to analyse: its path in the tree, its kind, and its text if it can be read. -/
structure SourceFile where
  path : String
  category : Category
  text : Option (List Char)
  deriving DecidableEq

namespace Inventory

/-- The file at a path of the tree, if it is of a known kind. -/
def classify? (file : String × Option (List UInt8)) : Option SourceFile :=
  (Category.ofPath? file.1).map fun kind => ⟨file.1, kind, file.2.map Utf8.decode⟩

/-- Whether one of the exclusions covers the path. -/
def isExcluded (exclusions : List Glob) (path : String) : Bool := exclusions.any (·.covers path)

/-- The files of known kinds that no exclusion covers, in the order of their paths. -/
def collect (folder : Node) (exclusions : List Glob) : List SourceFile :=
  let found := folder.files.filterMap classify?
  let kept := found.filter fun f => !isExcluded exclusions f.path
  kept.mergeSort fun f g => decide (f.path ≤ g.path)

end Inventory

/-- How many files of each kind there are, and how many lines they have. -/
structure FileStats where
  c : Nat
  cpp : Nat
  header : Nat
  lines : Nat
  deriving DecidableEq

namespace FileStats

def zero : FileStats := ⟨0, 0, 0, 0⟩

/-- One more file of the kind with that many lines. -/
def record (s : FileStats) (category : Category) (lines : Nat) : FileStats :=
  let s := { s with lines := s.lines + lines }
  match category with
  | .c => { s with c := s.c + 1 }
  | .cpp => { s with cpp := s.cpp + 1 }
  | .header => { s with header := s.header + 1 }

def merge (s t : FileStats) : FileStats :=
  ⟨s.c + t.c, s.cpp + t.cpp, s.header + t.header, s.lines + t.lines⟩

end FileStats

end Readiness
