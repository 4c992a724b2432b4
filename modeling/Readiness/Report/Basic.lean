import Readiness.Grade
import Readiness.Inventory
import Readiness.Usage

/-!
# Reports

A report holds all findings about a tree, the grade that they lead to and the advice that follows
from it.

* `Totals.ofFindings` sums up the findings for the grade policy.
* `Report.assemble` makes the report of given findings.
-/

namespace Readiness

/-- The complete result of an analysis. -/
structure Report where
  projectPath : String
  fileStats : FileStats
  apiUsages : List ApiFinding
  dependencies : List Dependency
  pathUsages : List PathUsage
  grade : Grade
  estimatedEffort : String
  risks : List String
  recommendations : List String
  deriving DecidableEq

def Report.findingsIn (r : Report) (tier : Tier) : List ApiFinding :=
  r.apiUsages.filter (·.tier = tier)

/-- The occurrences of all interfaces of a tier. -/
def occurrences (tier : Tier) (apiUsages : List ApiFinding) : Nat :=
  (apiUsages.filter (·.tier = tier)).foldl (fun n f => n + f.count) 0

def Totals.ofFindings (apiUsages : List ApiFinding) (pathUsages : List PathUsage) : Totals :=
  ⟨occurrences .blocking apiUsages, occurrences .needsRework apiUsages, pathUsages.length⟩

/-- What advice depends on. -/
structure Signals where
  grade : Grade
  hasBlocking : Bool
  hasUnknownDependency : Bool

/-- Pieces of advice, each list with the condition under which it is given. -/
def advicePolicy : List ((Signals → Bool) × List String) := [
  (fun s => s.grade = .C || s.grade = .D,
    ["evaluate alternative libraries", "confirm porting necessity with the team"]),
  (fun s => s.hasBlocking,
    ["isolate Linux-specific code into a separate module"]),
  (fun s => s.hasUnknownDependency,
    ["verify dependency availability on the target"])]

def Signals.advice (s : Signals) : List String :=
  (advicePolicy.filter (·.1 s)).flatMap (·.2)

namespace Report

def assemble (projectPath : String) (fileStats : FileStats) (apiUsages : List ApiFinding)
    (dependencies : List Dependency) (pathUsages : List PathUsage) : Report :=
  let outcome := (Totals.ofFindings apiUsages pathUsages).outcome
  let signals : Signals := {
    grade := outcome.grade
    hasBlocking := apiUsages.any (·.tier = .blocking)
    hasUnknownDependency := dependencies.any (·.availability = .unknown) }
  { projectPath, fileStats, apiUsages, dependencies, pathUsages
    grade := outcome.grade
    estimatedEffort := outcome.effort
    risks := outcome.risks
    recommendations := signals.advice }

end Report

end Readiness
