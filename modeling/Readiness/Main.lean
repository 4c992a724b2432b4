import Readiness.Command.Run

/-!
# The program on a real file system

A run is carried out in three steps: the part of the file system that it depends on is read into a
`Disk`, `Command.run` says what happens, and that is printed and written.

* `Survey.take` reads the part of the file system that the arguments reach.
* `main` is the program.
-/

namespace Readiness

/-- What is known of the file system. -/
structure Survey where
  disk : Disk
  /-- The places of the folders that were read with everything below them. -/
  explored : List (List String)

namespace Survey

def names (path : String) : List String := (Disk.segments path).filter (· != "")

def entry (place : List String) : IO.FS.DirEntry :=
  { root := Disk.canonical place.dropLast, fileName := place.getLastD "." }

/-- Whether the text of the files of that name matters. -/
def isReadable (name : String) : Bool :=
  (Category.ofPath? name).isSome || (BuildFile.fileName :: Settings.fileNames).contains name

/-- The bytes of the file at a place, if they can be read. -/
def content? (place : List String) : IO (Option (List UInt8)) := do
  try
    return some (← IO.FS.readBinFile (entry place).path).toList
  catch _ => return none

/-- What stands at a place, if anything: a folder without its entries, a file, or a link by the path
without links that it leads to. -/
def look? (isWanted : Bool) (place : List String) : IO (Option Node) := do
  try
    match (← (entry place).path.symlinkMetadata).type with
    | .dir => return some (.folder [])
    | .file => return some (.file (← if isWanted then content? place else pure none))
    | .symlink => return some (.link (← IO.FS.realPath (entry place).path).toString)
    | .other => return none
  catch _ => return none

/-- Records what stands at a place. What is known already is kept if it says more. -/
def record (s : Survey) (place : List String) (n : Node) : Survey :=
  match s.disk.root.at? place, n with
  | some (.folder _), .folder _ => s
  | some (.file (some _)), .file none => s
  | _, n => { s with disk := { s.disk with root := s.disk.root.put place n } }

/-- Records what the segments pass when they are followed from the place `here`. -/
def trace (s : Survey) : (here segments : List String) → IO Survey
  | _, [] => return s
  | here, segment :: rest => do
    if segment == "" || segment == "." then trace s here rest
    else if segment == ".." then trace s here.dropLast rest
    else
      let place := here ++ [segment]
      match ← look? true place with
      | none => return s
      | some (.link target) =>
        let s := s.record place (.link target)
        match ← look? true (names target) with
        | none => return s
        | some n => trace (s.record (names target) n) (names target) rest
      | some n => trace (s.record place n) place rest

def tracePath (s : Survey) (path : String) : IO Survey :=
  trace s (if Path.isAbsolute path then [] else s.disk.here) (Disk.segments path)

/-- The entries of the folder at a place. -/
def entries (place : List String) : IO (List String) := do
  try
    return (← (entry place).path.readDir).toList.map (·.fileName)
  catch _ => return []

/-- Records the node at a place with everything below it, and what the links there lead to. -/
partial def explore (isWanted : Bool) (s : Survey) (place : List String) : IO Survey := do
  if s.explored.contains place then return s
  match ← look? (isWanted || isReadable (place.getLastD "")) place with
  | none => return s
  | some (.folder _) =>
    let s := s.record place (.folder [])
    let s := { s with explored := place :: s.explored }
    (← entries place).foldlM (fun s name => explore false s (place ++ [name])) s
  | some (.link target) => explore true (s.record place (.link target)) (names target)
  | some n => return s.record place n

/-- The part of the file system that a run with the arguments depends on. -/
def take (args : List String) : IO Disk := do
  let here := names (← IO.currentDir).toString
  let s : Survey := ⟨⟨.folder [], here⟩, []⟩
  let s := s.record here (.folder [])
  match Invocation.ofArguments args with
  | .ok (.analyze choices) =>
    let root := choices.root.getD "."
    let s ← s.tracePath root
    let s ← match s.disk.resolve root with
      | .ok place => explore false s place
      | .error _ => pure s
    let s ← (Settings.probes root).foldlM tracePath s
    match (Settings.resolve s.disk choices).toOption.bind (·.output) with
    | some path => return (← s.tracePath path).disk
    | none => return s.disk
  | _ => return s.disk

end Survey

end Readiness

/-- The program: its result is printed, then written, then reported. -/
def main (args : List String) : IO UInt32 := do
  let noColor := (← IO.getEnv "NO_COLOR").isSome
  let result := Readiness.Command.run (← Readiness.Survey.take args) noColor args
  IO.print result.stdout
  (← IO.getStdout).flush
  try
    if let some (path, text) := result.written then IO.FS.writeFile path text
    IO.eprint result.stderr
    return UInt32.ofNat result.code
  catch e =>
    IO.eprint (Readiness.Command.message noColor .red "error:" e.toString)
    return 1
