/-!
# Grades

The grade of a tree is decided by three totals. The policy is a list of rows, and the first row
whose condition holds decides.

* `Totals` are the numbers that the policy looks at.
* `Totals.outcome` is the verdict of the policy.
-/

namespace Readiness

/-- How hard it is to move a tree to the target, from `A`, trivial, to `D`, not recommended. -/
inductive Grade where
  | A
  | B
  | C
  | D
  deriving DecidableEq

namespace Grade

def label : Grade → String
  | .A => "A"
  | .B => "B"
  | .C => "C"
  | .D => "D"

def named? : String → Option Grade
  | "A" => some .A
  | "B" => some .B
  | "C" => some .C
  | "D" => some .D
  | _ => none

/-- How many grades are better. -/
def rank : Grade → Nat
  | .A => 0
  | .B => 1
  | .C => 2
  | .D => 3

end Grade

/-- What a grade depends on. -/
structure Totals where
  /-- The occurrences of blocking interfaces. -/
  blocking : Nat
  /-- The occurrences of interfaces that need rework. -/
  needsRework : Nat
  /-- The reserved paths that are kept. -/
  pathUsages : Nat

/-- A grade with the effort to expect and the risks. -/
structure Outcome where
  grade : Grade
  effort : String
  risks : List String

/-- A row of the policy: when it applies, and what it says. -/
structure GradeRow where
  applies : Totals → Bool
  outcome : Outcome

/-- The rows that may apply, the strictest first. -/
def gradePolicy : List GradeRow := [
  ⟨fun t => 5 < t.blocking || 20 < t.pathUsages,
    ⟨.D, "not recommended", ["deep dependency on Linux-specific features"]⟩⟩,
  ⟨fun t => 0 < t.blocking || 10 < t.pathUsages,
    ⟨.C, "1-2 weeks", ["core logic needs restructuring"]⟩⟩,
  ⟨fun t => 20 < t.needsRework,
    ⟨.C, "1-2 weeks", ["large number of APIs need adaptation"]⟩⟩,
  ⟨fun t => 5 < t.needsRework,
    ⟨.B, "1-3 days", ["moderate amount of changes"]⟩⟩]

/-- What holds when no row applies. -/
def easyOutcome : Outcome := ⟨.A, "< 1 day", ["straightforward port"]⟩

/-- The verdict of the policy. -/
def Totals.outcome (t : Totals) : Outcome :=
  ((gradePolicy.find? (·.applies t)).map (·.outcome)).getD easyOutcome

end Readiness
