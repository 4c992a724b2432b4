import Readiness.Json
import Readiness.Report.Basic

/-!
# Reports as documents

The JSON form of reports and of rule tables.
-/

namespace Readiness

def Json.strs (ss : List String) : Json := .arr (ss.map .str)

namespace FileStats

def document (s : FileStats) : Json :=
  .obj [("c", .num s.c), ("cpp", .num s.cpp), ("h", .num s.header), ("total_lines", .num s.lines)]

end FileStats

namespace ApiFinding

def document (f : ApiFinding) : Json :=
  .obj [("name", .str f.name), ("tier", .str f.tier.label), ("count", .num f.count),
    ("files", .strs f.files), ("guidance", .str f.guidance)]

end ApiFinding

namespace Dependency

def document (d : Dependency) : Json :=
  .obj [("name", .str d.name), ("required", .bool d.required),
    ("availability", .str d.availability.label)]

end Dependency

namespace PathUsage

def document (p : PathUsage) : Json := .obj [("file", .str p.file), ("literal", .str p.literal)]

end PathUsage

namespace Report

def document (r : Report) : Json :=
  .obj [
    ("project_path", .str r.projectPath),
    ("file_stats", r.fileStats.document),
    ("api_usages", .arr (r.apiUsages.map (·.document))),
    ("dependencies", .arr (r.dependencies.map (·.document))),
    ("path_usages", .arr (r.pathUsages.map (·.document))),
    ("grade", .str r.grade.label),
    ("estimated_effort", .str r.estimatedEffort),
    ("risks", .strs r.risks),
    ("recommendations", .strs r.recommendations)]

/-- The text of the document of a report. -/
def toJson (r : Report) : String := r.document.pretty

end Report

namespace RuleTable

def ruleDocument (r : Rule) : Json :=
  .obj [("pattern", .str r.pattern), ("tier", .str r.tier.label), ("guidance", .str r.guidance)]

/-- The document of a table, scored rules first. -/
def document (t : RuleTable) : Json := .obj [("rules", .arr (t.rules.map ruleDocument))]

end RuleTable

end Readiness
