import Readiness.Failure
import Readiness.Rule.Basic
import Readiness.Settings.File

/-!
# Effective settings

The settings of a run come from the command line, else from a settings file, else from the defaults,
each by itself. The file is the first of three names in the nearest folder, on the spelled path from
the root upward, that holds one of them or a repository.

* `Settings.search` goes up a spelled path; `Settings.folder` is the folder where it ends on a disk.
* `Settings.load?` reads the settings file of a folder.
* `Settings.resolve` combines everything.
-/

namespace Readiness

/-- How a report is printed. -/
inductive Format where
  | human
  | json
  deriving DecidableEq

namespace Format

def label : Format → String
  | .human => "human"
  | .json => "json"

def named? : String → Option Format
  | "human" => some .human
  | "json" => some .json
  | _ => none

end Format

/-- What the command line of an analysis says. -/
structure Choices where
  root : Option String
  output : Option String
  format : Option String
  exclude : List String
  matchMode : Option String

/-- The settings of a run. -/
structure Settings where
  root : String
  format : Format
  output : Option String
  exclude : List String
  matchMode : MatchMode
  /-- The folder of the settings file that was applied, if there was one. -/
  source : Option String

namespace Settings

/-- The names of settings files; the first one that exists counts. -/
def fileNames : List String := ["portdiag.toml", "portdiag.yaml", "portdiag.yml"]

/-- The entry that marks a folder as a repository. -/
def repositoryMark : String := ".git"

/-- Whether the search for settings files stops at the folder, where `occurs` tells which paths
exist. -/
def stops (occurs : String → Bool) (folder : String) : Bool :=
  (fileNames ++ [repositoryMark]).any fun name => occurs (Path.join folder name)

/-- The nearest folder on the spelled path from `start` upward that stops the search, or `start`
itself if none does. -/
def search (occurs : String → Bool) (start : String) : String :=
  ((Path.ancestors start).find? (stops occurs)).getD start

/-- The paths of which it matters whether they exist when the search begins at `start`. -/
def probes (start : String) : List String :=
  (Path.ancestors start).flatMap fun folder =>
    (fileNames ++ [repositoryMark]).map (Path.join folder)

/-- The folder whose settings file counts when the search begins at `start`. -/
def folder (d : Disk) (start : String) : String := search d.exists start

/-- Reads the text of a settings file by its name. -/
def read? (name : String) (text : List Char) : Option FileSettings :=
  if name.endsWith ".toml" then FileSettings.ofToml? text else FileSettings.ofYaml? text

/-- The settings file of a folder. If the first one that exists is not valid, there is none. -/
def load? (d : Disk) (folder : String) : Option FileSettings := do
  let name ← fileNames.find? fun name => d.exists (Path.join folder name)
  let bytes ← d.read? (Path.join folder name)
  let text ← Utf8.decode? bytes
  read? name text

def chooseFormat : Option String → Except Failure Format
  | none => .ok .human
  | some value =>
    match Format.named? value with
    | some f => .ok f
    | none => .error (.badFormat value)

/-- The match mode that a value asks for. -/
def chooseMatchMode : Option String → Except Failure MatchMode
  | none => .ok .substring
  | some value =>
    match MatchMode.named? value with
    | some m => .ok m
    | none => .error (.badMatchMode value)

/-- The path that a report is written to: as the command line gives it, or as seen from the folder
of the settings file. -/
def chooseOutput (choice : Option String) (folder : String) (setting : Option String) :
    Option String :=
  choice <|> setting.map (Path.join folder)

def resolve (d : Disk) (c : Choices) : Except Failure Settings := do
  let root := c.root.getD "."
  let folder := Settings.folder d root
  let loaded := load? d folder
  let file := loaded.getD .empty
  let format ← chooseFormat (c.format <|> file.format)
  let matchMode ← chooseMatchMode (c.matchMode <|> file.matchMode)
  .ok {
    root, format, matchMode
    output := chooseOutput c.output folder file.output
    exclude := if c.exclude.isEmpty then file.exclude.getD [] else c.exclude
    source := loaded.map fun _ => folder }

end Settings

end Readiness
