import Readiness.Disk.Basic
import Readiness.Glob
import Readiness.Pattern.Parser

/-!
# Failures

The conditions that stop a whole run, and their wording.
-/

namespace Readiness

namespace Pattern

/-- The wording of what is wrong with a pattern. -/
def Fault.message : Fault → String
  | .unclosedGroup => "unclosed group"
  | .unopenedGroup => "unopened group"
  | .badGroupName => "invalid group name"
  | .badFlags => "invalid flags"
  | .lookAround => "look-around is not supported"
  | .nothingToRepeat => "repetition of nothing"
  | .badBounds => "invalid repetition bounds"
  | .unclosedClass => "unclosed character class"
  | .badRange => "invalid character class range"
  | .notInClass => "invalid escape in character class"
  | .badEscape => "invalid escape"
  | .unknownProperty => "unknown property"
  | .notText => "pattern matches bytes that are not text"
  | .tooLarge => "pattern is too large"

end Pattern

/-- Why a run stops. -/
inductive Failure where
  /-- There is nothing at the root path. -/
  | rootNotFound (path : String)
  /-- The root path does not lead to a folder. -/
  | rootNotFolder (path : String)
  /-- An exclusion is no glob. -/
  | badGlob (source : String) (fault : GlobFault)
  /-- A scored rule has no valid pattern. -/
  | badRule (pattern : String) (fault : Pattern.Fault)
  /-- There is no such format. -/
  | badFormat (value : String)
  /-- There is no such match mode. -/
  | badMatchMode (value : String)
  /-- The report cannot be written. -/
  | notWritten (path : String) (fault : PathFault)

def Failure.message : Failure → String
  | .rootNotFound path => "Root path not found: " ++ path
  | .rootNotFolder path => "Root path is not a directory: " ++ path
  | .badGlob source fault => "Invalid pattern '" ++ source ++ "': " ++ fault.message
  | .badRule pattern fault => "Invalid pattern '" ++ pattern ++ "': " ++ fault.message
  | .badFormat value => "Invalid value '" ++ value ++ "' for format (expected human|json)"
  | .badMatchMode value =>
    "Invalid value '" ++ value ++ "' for match mode (expected substring|word)"
  | .notWritten path fault => "Failed to write report to " ++ path ++ ": " ++ fault.message

/-- Reads the exclusions; the error is the first one that is no glob. -/
def readGlobs : List String → Except Failure (List Glob)
  | [] => .ok []
  | source :: sources =>
    match Glob.parse source with
    | .error fault => .error (.badGlob source fault)
    | .ok g => do
      let gs ← readGlobs sources
      .ok (g :: gs)

end Readiness
