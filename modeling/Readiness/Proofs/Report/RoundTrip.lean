import Readiness.Proofs.Json.Reader
import Readiness.Report.Document

/-!
# Reports read back from their text

A report is found again in its document, field by field, and its document is the only one of which
its text is a written form. So a reader of JSON texts recovers the report from the text.

* `Report.ofDocument?` : the report that a document holds.
* `Report.toJson_spec` : the text of a report and what is read from it.
-/

namespace Readiness

/-! ## Parts of documents -/

namespace Json

/-- The value of the one member with a name. -/
def field? (name : String) : Json → Option Json
  | .obj members =>
    match members.filter (·.1 = name) with
    | [m] => some m.2
    | _ => none
  | _ => none

def number? : Json → Option Nat
  | .num n => some n
  | _ => none

def bool? : Json → Option Bool
  | .bool b => some b
  | _ => none

def str? : Json → Option String
  | .str s => some s
  | _ => none

/-- The items of an array, each read in the same way. -/
def list? {α : Type} (item? : Json → Option α) : Json → Option (List α)
  | .arr items => items.mapM item?
  | _ => none

theorem list?_arr_map {α : Type} {item? : Json → Option α} {item : α → Json}
    (h : ∀ a, item? (item a) = some a) (as : List α) :
    list? item? (.arr (as.map item)) = some as := by
  induction as with
  | nil => rfl
  | cons a as ih =>
    rw [list?] at ih ⊢
    simp [h, ih]

theorem list?_strs (ss : List String) : list? str? (.strs ss) = some ss :=
  @list?_arr_map String str? .str (fun _ => rfl) ss

end Json

theorem Tier.named?_label (t : Tier) : Tier.named? t.label = some t := by
  cases t <;> rfl

theorem Availability.named?_label (a : Availability) : Availability.named? a.label = some a := by
  cases a <;> rfl

theorem Grade.named?_label (g : Grade) : Grade.named? g.label = some g := by
  cases g <;> rfl

/-! ## Findings -/

/-- The counts that a document holds. -/
def FileStats.ofDocument? (j : Json) : Option FileStats := do
  let c ← (← j.field? "c").number?
  let cpp ← (← j.field? "cpp").number?
  let header ← (← j.field? "h").number?
  let lines ← (← j.field? "total_lines").number?
  some ⟨c, cpp, header, lines⟩

theorem FileStats.ofDocument?_document (s : FileStats) : ofDocument? s.document = some s := by
  simp [ofDocument?, document, Json.field?, Json.number?]

/-- The uses of an interface that a document holds. -/
def ApiFinding.ofDocument? (j : Json) : Option ApiFinding := do
  let name ← (← j.field? "name").str?
  let tier ← Tier.named? (← (← j.field? "tier").str?)
  let count ← (← j.field? "count").number?
  let files ← (← j.field? "files").list? Json.str?
  let guidance ← (← j.field? "guidance").str?
  some ⟨name, tier, count, files, guidance⟩

theorem ApiFinding.ofDocument?_document (f : ApiFinding) : ofDocument? f.document = some f := by
  simp [ofDocument?, document, Json.field?, Json.str?, Json.number?, Json.list?_strs,
    Tier.named?_label]

/-- The dependency that a document holds. -/
def Dependency.ofDocument? (j : Json) : Option Dependency := do
  let name ← (← j.field? "name").str?
  let required ← (← j.field? "required").bool?
  let availability ← Availability.named? (← (← j.field? "availability").str?)
  some ⟨name, required, availability⟩

theorem Dependency.ofDocument?_document (d : Dependency) : ofDocument? d.document = some d := by
  simp [ofDocument?, document, Json.field?, Json.str?, Json.bool?, Availability.named?_label]

/-- The reserved path that a document holds. -/
def PathUsage.ofDocument? (j : Json) : Option PathUsage := do
  let file ← (← j.field? "file").str?
  let literal ← (← j.field? "literal").str?
  some ⟨file, literal⟩

theorem PathUsage.ofDocument?_document (p : PathUsage) : ofDocument? p.document = some p := by
  simp [ofDocument?, document, Json.field?, Json.str?]

/-! ## Reports -/

namespace Report

/-- The report that a document holds. -/
def ofDocument? (j : Json) : Option Report := do
  let projectPath ← (← j.field? "project_path").str?
  let fileStats ← FileStats.ofDocument? (← j.field? "file_stats")
  let apiUsages ← (← j.field? "api_usages").list? ApiFinding.ofDocument?
  let dependencies ← (← j.field? "dependencies").list? Dependency.ofDocument?
  let pathUsages ← (← j.field? "path_usages").list? PathUsage.ofDocument?
  let grade ← Grade.named? (← (← j.field? "grade").str?)
  let estimatedEffort ← (← j.field? "estimated_effort").str?
  let risks ← (← j.field? "risks").list? Json.str?
  let recommendations ← (← j.field? "recommendations").list? Json.str?
  some ⟨projectPath, fileStats, apiUsages, dependencies, pathUsages, grade, estimatedEffort, risks,
    recommendations⟩

theorem ofDocument?_document (r : Report) : ofDocument? r.document = some r := by
  simp [ofDocument?, document, Json.field?, Json.str?, Json.list?_strs,
    FileStats.ofDocument?_document, Json.list?_arr_map ApiFinding.ofDocument?_document,
    Json.list?_arr_map Dependency.ofDocument?_document,
    Json.list?_arr_map PathUsage.ofDocument?_document, Grade.named?_label]

theorem denotes_toJson (r : Report) : Json.Denotes r.toJson.toList r.document :=
  Json.denotes_pretty r.document

theorem read?_toJson (r : Report) : (Json.read? r.toJson).bind ofDocument? = some r := by
  rw [Json.read?_eq_some_iff.mpr r.denotes_toJson, Option.bind_some, ofDocument?_document]

/-- The text of a report is a written form of its document and of no other one, and the report is
recovered from it, so different reports have different texts. No control character stands in a
string of the text. -/
theorem toJson_spec (r : Report) :
    (∀ j, Json.Denotes r.toJson.toList j ↔ j = r.document) ∧
      (Json.read? r.toJson).bind ofDocument? = some r ∧
      (∀ s : Report, s.toJson = r.toJson ↔ s = r) ∧
      ∀ c ∈ Json.insideStrings false r.toJson.toList, 0x20 ≤ c.toNat := by
  refine ⟨fun j => ⟨fun h => h.unique r.denotes_toJson, ?_⟩, r.read?_toJson,
    fun s => ⟨fun h => ?_, fun h => h ▸ rfl⟩, r.denotes_toJson.le_of_mem_insideStrings⟩
  · rintro rfl
    exact r.denotes_toJson
  · have hs := s.read?_toJson
    rw [h, r.read?_toJson] at hs
    exact (Option.some.inj hs).symm

end Report

end Readiness
