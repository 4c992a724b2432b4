import Readiness.Toml.Parser
import Readiness.Yaml.Node

/-!
# Settings files

What a settings file can set, and how it is read from TOML and from YAML. Unknown keys are ignored;
a known key that is set twice or to a value of the wrong kind makes the whole file invalid.

* `FileSettings.ofToml?` and `FileSettings.ofYaml?` read the text of a file.
-/

namespace Readiness

/-- The settings of a file. -/
structure FileSettings where
  format : Option String
  /-- The path of the written report, as seen from the folder of the file. -/
  output : Option String
  exclude : Option (List String)
  matchMode : Option String
  deriving DecidableEq

namespace FileSettings

def empty : FileSettings := ⟨none, none, none, none⟩

/-- The settings by their keys. -/
inductive Key where
  | format
  | output
  | exclude
  | matchMode
  deriving DecidableEq

/-- The setting of that name. One setting has two spellings. -/
def Key.named? : String → Option Key
  | "format" => some .format
  | "output" => some .output
  | "exclude" => some .exclude
  | "matchMode" => some .matchMode
  | "match_mode" => some .matchMode
  | _ => none

/-- The members with known keys, or `none` if a key occurs twice. -/
def known? {α : Type} : List (String × α) → Option (List (Key × α))
  | [] => some []
  | (name, value) :: ms => do
    let rest ← known? ms
    match Key.named? name with
    | none => some rest
    | some key => if (rest.map (·.1)).contains key then none else some ((key, value) :: rest)

/-- The value of a known key, read by `read`; nothing if the key does not occur. -/
def setting? {α β : Type} (read : α → Option (Option β)) (key : Key) (ms : List (Key × α)) :
    Option (Option β) :=
  match ms.lookup key with
  | none => some none
  | some value => read value

/-- The settings of members with known keys, where a text is read by `text` and a list of texts by
`texts`. -/
def ofMembers? {α : Type} (text : α → Option (Option String))
    (texts : α → Option (Option (List String))) (members : List (String × α)) :
    Option FileSettings := do
  let ms ← known? members
  let format ← setting? text .format ms
  let output ← setting? text .output ms
  let exclude ← setting? texts .exclude ms
  let matchMode ← setting? text .matchMode ms
  some { format, output, exclude, matchMode }

/-! ## TOML -/

def tomlText : Toml → Option String
  | .text s => some s
  | _ => none

def tomlTexts : Toml → Option (List String)
  | .list items => items.mapM tomlText
  | _ => none

/-- The settings in the text of a TOML file. -/
def ofToml? (text : List Char) : Option FileSettings := do
  let members ← Toml.parse? text
  ofMembers? (fun v => (tomlText v).map some) (fun v => (tomlTexts v).map some) members

/-! ## YAML -/

def isNullWord (s : String) : Bool := s == "~" || s == "null" || s == "Null" || s == "NULL"

def nullTag : String := "tag:yaml.org,2002:null"

/-- What stands at a place where nothing is allowed too: `some false` for nothing, `some true` for
something, and `none` for a scalar that claims to be nothing and is not. -/
def isPresent : Yaml → Option Bool
  | .scalar text true none => some !(text.isEmpty || isNullWord text)
  | .scalar text true (some tag) =>
    if tag == nullTag then (if isNullWord text then some false else none) else some true
  | _ => some true

/-- A text: the source text of any scalar. -/
def yamlText : Yaml → Option String
  | .scalar text _ _ => some text
  | _ => none

/-- A list of texts. An empty plain scalar is an empty list. -/
def yamlTexts : Yaml → Option (List String)
  | .sequence items => items.mapM yamlText
  | .scalar "" true _ => some []
  | _ => none

def optional {β : Type} (read : Yaml → Option β) (n : Yaml) : Option (Option β) := do
  if ← isPresent n then (read n).map some else some none

/-- The members of a document. An empty one has none. -/
def yamlMembers : Yaml → Option (List (String × Yaml))
  | .mapping members => members.mapM fun m => (yamlText m.1).map (·, m.2)
  | .scalar "" true _ => some []
  | _ => none

/-- The settings in the text of a YAML file. -/
def ofYaml? (text : List Char) : Option FileSettings := do
  let members ← yamlMembers (← Yaml.parse? text)
  ofMembers? (optional yamlText) (optional yamlTexts) members

end FileSettings

end Readiness
