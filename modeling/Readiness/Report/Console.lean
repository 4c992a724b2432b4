import Readiness.Report.Basic

/-!
# Reports for the console

The readable form of reports and rule tables, with or without terminal colours. Colour adds
sequences around titles and names and changes nothing else.

* `Console.report` is the readable report.
* `Console.rules` is the readable list of rules.
-/

namespace Readiness.Console

/-- Ways to emphasise a text on a terminal. -/
inductive Style where
  | bold
  | red
  | green
  | yellow
  | blue
  | cyan

def sequence (n : Nat) : String := "\x1b[" ++ toString n ++ "m"

def Style.apply (style : Style) (s : String) : String :=
  let around (start stop : Nat) := sequence start ++ s ++ sequence stop
  match style with
  | .bold => around 1 0
  | .red => around 31 39
  | .green => around 32 39
  | .yellow => around 33 39
  | .blue => around 34 39
  | .cyan => around 36 39

/-- The text in several styles, the first one innermost, if colour is wanted. -/
def paint (color : Bool) (styles : List Style) (s : String) : String :=
  if color then styles.foldl (fun s style => style.apply s) s else s

def boxWidth : Nat := 60

/-- The greatest number of interfaces needing rework that are shown. -/
def maxRework : Nat := 10

/-- The greatest number of dependencies that are shown. -/
def maxDependencies : Nat := 10

/-- The greatest number of reserved paths that are shown. -/
def maxPaths : Nat := 5

def repeated (n : Nat) (c : Char) : String := String.ofList (List.replicate n c)

/-- The text with blanks after it up to a width in characters. Longer text is not cut. -/
def padRight (width : Nat) (s : String) : String := s ++ repeated (width - s.length) ' '

/-- The text with blanks on both sides up to a width; an odd one goes to the right. -/
def padCenter (width : Nat) (s : String) : String :=
  let blanks := width - s.length
  repeated (blanks / 2) ' ' ++ s ++ repeated (blanks - blanks / 2) ' '

def boxed (s : String) : String := "║ " ++ padRight (boxWidth - 1) s ++ "║\n"

def title (color : Bool) (s : String) : String := paint color [.bold] ("[" ++ s ++ "]") ++ "\n"

/-- The box at the head of a report. -/
def header (r : Report) : String :=
  let bar := repeated boxWidth '═'
  "╔" ++ bar ++ "╗\n" ++
    "║" ++ padCenter boxWidth "Porting Feasibility Report" ++ "║\n" ++
    "╠" ++ bar ++ "╣\n" ++
    boxed ("Grade: " ++ r.grade.label) ++
    boxed ("Estimated effort: " ++ r.estimatedEffort) ++
    "╚" ++ bar ++ "╝\n\n"

def files (color : Bool) (s : FileStats) : String :=
  title color "Files" ++
    "  C files: " ++ toString s.c ++ "\n" ++
    "  C++ files: " ++ toString s.cpp ++ "\n" ++
    "  Headers: " ++ toString s.header ++ "\n" ++
    "  Total lines: " ++ toString s.lines ++ "\n\n"

/-- A section with a title and lines, left out when there is nothing to show. -/
def optional (color : Bool) (name : String) (lines : List String) : String :=
  if lines.isEmpty then "" else title color name ++ String.join lines ++ "\n"

def occurrenceText (f : ApiFinding) : String := ": " ++ toString f.count ++ " occurrence(s)"

def blockingLine (color : Bool) (f : ApiFinding) : String :=
  "  " ++ paint color [.red, .bold] f.name ++ occurrenceText f ++ "\n" ++
    "    guidance: " ++ f.guidance ++ "\n"

/-- The line on an interface that needs rework. -/
def reworkLine (color : Bool) (f : ApiFinding) : String :=
  "  " ++ paint color [.yellow] f.name ++ occurrenceText f ++ " -> " ++ f.guidance ++ "\n"

/-- The lines on the interfaces that need rework: the first ones, and how many more there are. -/
def reworkLines (color : Bool) (fs : List ApiFinding) : List String :=
  (fs.take maxRework).map (reworkLine color) ++
    if maxRework < fs.length then
      ["  ... " ++ toString (fs.length - maxRework) ++ " more\n"]
    else []

def dependencyLine (d : Dependency) : String :=
  "  " ++ d.availability.glyph ++ " " ++ d.name ++ "\n"

def pathLine (p : PathUsage) : String := "  " ++ p.file ++ ": \"" ++ p.literal ++ "\"\n"

def report (color : Bool) (r : Report) : String :=
  header r ++ files color r.fileStats ++
    optional color "Blocking APIs (not portable)"
      ((r.findingsIn .blocking).map (blockingLine color)) ++
    optional color "APIs needing rework" (reworkLines color (r.findingsIn .needsRework)) ++
    optional color "Dependencies" ((r.dependencies.take maxDependencies).map dependencyLine) ++
    optional color "/proc and /sys usage" ((r.pathUsages.take maxPaths).map pathLine) ++
    title color "Risks" ++ String.join (r.risks.map fun s => "  ⚠ " ++ s ++ "\n") ++ "\n" ++
    title color "Recommendations" ++
    String.join (r.recommendations.map fun s => "  → " ++ s ++ "\n")

def tierTag (color : Bool) (tier : Tier) : String :=
  if tier = .blocking then paint color [.red, .bold] "⟦blocking⟧"
  else paint color [.yellow, .bold] "⟦rework⟧"

/-- The readable list of rules. Safe interfaces share one line. -/
def rules (color : Bool) (t : RuleTable) : String :=
  let scored := t.scored.map fun r =>
    tierTag color r.rule.tier ++ " " ++ r.rule.pattern ++ " — " ++ r.rule.guidance ++ "\n"
  let safe :=
    if t.safe.isEmpty then ""
    else paint color [.green, .bold] "⟦safe⟧" ++ " " ++
      String.intercalate ", " (t.safe.map (·.pattern)) ++ "\n"
  String.join scored ++ safe

end Readiness.Console
