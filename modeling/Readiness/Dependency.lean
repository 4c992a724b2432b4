import Readiness.Finding
import Readiness.Pattern.Match
import Readiness.Pattern.Parser

/-!
# Dependencies of a build

The packages and libraries that a CMake build file declares, and whether the target has them.

* `Allowlist.availability` looks a name up.
* `BuildFile.declarations` lists the names that the declarations of a build file yield.
* `BuildFile.dependencies` lists each name once.
-/

namespace Readiness

open Unicode

/-- The libraries of the target, in lower case. -/
structure Allowlist where
  names : List String

namespace Allowlist

/-- The text with its ASCII letters in lower case. -/
def lower (s : String) : String := String.ofList (Text.asciiLower s.toList)

def ofNames (names : List String) : Allowlist := ⟨names.map lower⟩

def builtin : Allowlist :=
  ofNames [
    "pthread", "dl", "rt", "m", "z", "ssl", "crypto", "curl", "sqlite3", "jpeg", "png", "xml2"]

/-- The name after a leading `lib`, if something follows it. -/
def bare? (name : String) : Option String :=
  match name.toList with
  | 'l' :: 'i' :: 'b' :: c :: cs => some (String.ofList (c :: cs))
  | _ => none

/-- A library is available if it is listed, with or without a leading `lib` and in any case. -/
def availability (a : Allowlist) (name : String) : Availability :=
  let n := lower name
  if a.names.contains n || (bare? n).any a.names.contains then .yes else .unknown

end Allowlist

namespace BuildFile

/-- The name of the build file at the root of a tree. -/
def fileName : String := "CMakeLists.txt"

def linkKeywords : List String := [
  "PUBLIC", "PRIVATE", "INTERFACE", "LINK_PUBLIC", "LINK_PRIVATE", "LINK_INTERFACE_LIBRARIES",
  "debug", "optimized", "general"]

def moduleKeywords : List String := [
  "REQUIRED", "QUIET", "IMPORTED_TARGET", "GLOBAL", "NO_CMAKE_PATH", "NO_CMAKE_ENVIRONMENT_PATH"]

/-- The place where a word begins or ends. -/
def wordEdge : Pattern := .assert (.words .edge isWord)

def blanks : Pattern := .many (.char (.having isBlank))

/-- The name of a command in any case, at the beginning of a word, with the parenthesis after it. -/
def command (name : String) : List Pattern :=
  wordEdge :: name.toList.map (fun c => .char (.folded (.one c))) ++ [blanks, .char (.one '(')]

def packageDeclaration : CapturePattern where
  lead := .sequence (command "find_package" ++ [blanks])
  inner := .manyOne (.char (.having isWord))
  tail := .empty

/-- A declaration with the text between its parentheses. -/
def listDeclaration (name : String) : CapturePattern where
  lead := .sequence (command name)
  inner := .many (.char (.compl (.one ')')))
  tail := .char (.one ')')

def packages (text : List Char) : List String :=
  (packageDeclaration.captures text).map String.ofList

/-- The module that an argument names: its leading alphanumeric characters and underscores. -/
def moduleName? (argument : List Char) : Option String :=
  let name := argument.takeWhile fun c => isAlphanumeric c || c == '_'
  if name.isEmpty then none else some (String.ofList name)

/-- The modules in the arguments of a `pkg_check_modules` declaration. The first argument is a
variable. -/
def modulesIn (arguments : List Char) : List String :=
  (((Text.words arguments).drop 1).filter
    fun a => !moduleKeywords.contains (String.ofList a)).filterMap moduleName?

def modules (text : List Char) : List String :=
  ((listDeclaration "pkg_check_modules").captures text).flatMap modulesIn

/-- The library that a link item names: `-l` and a name, or a name. -/
def libraryName? (item : List Char) : Option String :=
  if linkKeywords.contains (String.ofList item) then none
  else match item with
    | '-' :: 'l' :: name =>
      if !name.isEmpty && name.all isWord then some (String.ofList name) else none
    | name => if !name.isEmpty && name.all isWord then some (String.ofList name) else none

/-- The libraries in the arguments of a `target_link_libraries` declaration. The first argument is
the target. -/
def librariesIn (arguments : List Char) : List String :=
  ((Text.words arguments).drop 1).filterMap libraryName?

def libraries (text : List Char) : List String :=
  ((listDeclaration "target_link_libraries").captures text).flatMap librariesIn

/-- The names that all declarations yield, form by form, and whether the build needs them. -/
def declarations (text : List Char) : List (String × Bool) :=
  (packages text).map (·, true) ++ (modules text).map (·, true) ++ (libraries text).map (·, false)

/-- The declarations whose names are not in `seen`, each name at its first occurrence. -/
def firstOfName : (seen : List String) → List (String × Bool) → List (String × Bool)
  | _, [] => []
  | seen, d :: ds =>
    if seen.contains d.1 then firstOfName seen ds else d :: firstOfName (d.1 :: seen) ds

/-- The dependencies that a build file declares, each name once. -/
def dependencies (allowlist : Allowlist) (text : List Char) : List Dependency :=
  (firstOfName [] (declarations text)).map fun d => ⟨d.1, d.2, allowlist.availability d.1⟩

end BuildFile

end Readiness
