import Readiness.Rule.Basic

/-!
# Findings

What the scanners report: uses of interfaces, declared dependencies and reserved paths.
-/

namespace Readiness

/-- The uses of one interface in the whole tree. -/
structure ApiFinding where
  name : String
  tier : Tier
  /-- How often it occurs. -/
  count : Nat
  /-- Some of the files where it occurs. -/
  files : List String
  guidance : String
  deriving DecidableEq

/-- Whether a dependency is known to exist on the target. -/
inductive Availability where
  | yes
  | no
  | unknown
  deriving DecidableEq

namespace Availability

def label : Availability → String
  | .yes => "yes"
  | .no => "no"
  | .unknown => "unknown"

def named? : String → Option Availability
  | "yes" => some .yes
  | "no" => some .no
  | "unknown" => some .unknown
  | _ => none

def glyph : Availability → String
  | .yes => "✓"
  | .no => "✗"
  | .unknown => "?"

end Availability

/-- A dependency that the build file declares. -/
structure Dependency where
  name : String
  /-- Whether the build needs it, as opposed to linking it. -/
  required : Bool
  availability : Availability
  deriving DecidableEq

/-- A path into a reserved tree that stands in a source file. -/
structure PathUsage where
  file : String
  literal : String
  deriving DecidableEq

end Readiness
