import Readiness.Dependency
import Readiness.Failure
import Readiness.Report.Basic
import Readiness.ReservedPath

/-!
# Analysis

Every file of a tree is scanned by itself, the partial results are merged in the order of the paths,
and the report is assembled from them and from the build file.

* `Analysis.ofFolder` is the report on a folder.
* `Analysis.run` is the report on the folder that a path leads to.
-/

namespace Readiness

/-- What an analysis needs besides the tree. -/
structure Options where
  rules : RuleTable
  allowlist : Allowlist
  exclusions : List Glob

/-- What one file contributes to a report. -/
structure Contribution where
  stats : FileStats
  usage : Usage
  paths : List PathUsage

namespace Analysis

/-- Scans one file. A file that cannot be read counts as a file without lines. Reserved paths in
headers do not count. -/
def scan (rules : RuleTable) (f : SourceFile) : Contribution :=
  match f.text with
  | none => ⟨FileStats.zero.record f.category 0, .zero, []⟩
  | some text =>
    { stats := FileStats.zero.record f.category (lineCount text)
      usage := Usage.scan rules f.path text
      paths := if f.category.isSource then ReservedPath.scan f.path text else [] }

/-- The dependencies that the build file of a folder declares. -/
def dependencies (allowlist : Allowlist) (folder : Node) : List Dependency :=
  match folder.child? BuildFile.fileName with
  | some (.file (some bytes)) => BuildFile.dependencies allowlist (Utf8.decode bytes)
  | _ => []

/-- The report on the files and the dependencies of a tree. -/
def assemble (rules : RuleTable) (projectPath : String) (files : List SourceFile)
    (dependencies : List Dependency) : Report :=
  let parts := files.map (scan rules)
  let stats := parts.foldl (fun s p => s.merge p.stats) FileStats.zero
  let usage := parts.foldl (fun u p => u.merge p.usage) Usage.zero
  Report.assemble projectPath stats (usage.findings rules) dependencies
    (ReservedPath.cap (parts.map (·.paths)))

/-- The report on a folder without links. -/
def ofFolder (o : Options) (projectPath : String) (folder : Node) : Report :=
  assemble o.rules projectPath (Inventory.collect folder o.exclusions)
    (dependencies o.allowlist folder)

/-- The place of the folder that the root path leads to. -/
def findRoot (d : Disk) (root : String) : Except Failure (List String) :=
  match d.resolve root with
  | .error _ => .error (.rootNotFound root)
  | .ok names =>
    match d.root.at? names with
    | none => .error (.rootNotFound root)
    | some (.folder _) => .ok names
    | some _ => .error (.rootNotFolder root)

/-- The folder at a place with its links followed. -/
def folderAt (d : Disk) (names : List String) : Node := (d.followed? names).getD (.folder [])

/-- The report on the folder that the root path leads to. -/
def run (d : Disk) (root : String) (o : Options) : Except Failure Report := do
  let names ← findRoot d root
  .ok (ofFolder o (Disk.canonical names) (folderAt d names))

end Analysis

end Readiness
