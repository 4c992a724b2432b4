import Readiness.Analysis
import Readiness.Proofs.Report.Policy
import Readiness.Proofs.Usage.Listing

/-!
# The totals of a tree

The numbers that grade a tree, counted file by file before anything is cut off, and what grade and
advice they lead to.

* `RuleTable.occurrences`, `ReservedPath.found` : the totals of a list of files.
* `Analysis.assemble_isListing` : the findings of a report are the listing of its texts.
* `Analysis.run_grade_and_advice` : grade and advice as conditions on the totals.
* `Analysis.assemble_grade_le` : larger totals never have a better grade.
-/

namespace Readiness

/-- The texts of the files that can be read. -/
def Inventory.texts (files : List SourceFile) : List ScannedText :=
  files.filterMap fun f => f.text.map fun text => ⟨f.path, text⟩

theorem Inventory.texts_cons (f : SourceFile) (files : List SourceFile) :
    texts (f :: files) = texts [f] ++ texts files := by
  rw [texts, texts, texts, ← List.filterMap_append]
  rfl

/-- The number of matches of all rules of a tier in the texts of the files. -/
def RuleTable.occurrences (table : RuleTable) (tier : Tier) (files : List SourceFile) : Nat :=
  (files.map fun f => match f.text with
    | none => 0
    | some text => ((table.scored.filter (·.rule.tier = tier)).map (·.countIn text)).sum).sum

/-- The number of reserved paths in the source files, headers left out. -/
def ReservedPath.found (files : List SourceFile) : Nat :=
  (files.map fun f => match f.text with
    | none => 0
    | some text => if f.category.isSource then (scan f.path text).length else 0).sum

/-! ## From files to findings -/

namespace Analysis
variable {table : RuleTable}

theorem usage_scan_tallies (f : SourceFile) :
    Usage.Tallies table (Inventory.texts [f]) (scan table f).usage := by
  cases h : f.text with
  | none => simpa [scan, Inventory.texts, h] using Usage.tallies_zero
  | some text =>
    simpa [scan, Inventory.texts, h] using @Usage.tallies_scan table ⟨f.path, text⟩

theorem foldl_usage_tallies (files : List SourceFile) {scans : List ScannedText} {u : Usage}
    (hu : Usage.Tallies table scans u) :
    Usage.Tallies table (scans ++ Inventory.texts files)
      ((files.map (scan table)).foldl (fun u p => u.merge p.usage) u) := by
  -- The invariant of the loop over the files: the usage so far holds the tallies of the texts so
  -- far.
  induction files generalizing scans u with
  | nil => simpa [Inventory.texts] using hu
  | cons f files ih =>
    have hstep := ih (hu.merge (usage_scan_tallies f))
    rwa [Inventory.texts_cons, ← List.append_assoc]

/-- **The findings of a report are the listing of the texts of its files.** -/
theorem assemble_isListing (table : RuleTable) (projectPath : String) (files : List SourceFile)
    (dependencies : List Dependency) : IsListing table (Inventory.texts files)
      (assemble table projectPath files dependencies).apiUsages :=
  (foldl_usage_tallies files Usage.tallies_zero).isListing

end Analysis

/-! ## From findings to totals -/

theorem occurrences_eq_sum (tier : Tier) (fs : List ApiFinding) :
    occurrences tier fs = ((fs.filter (·.tier = tier)).map (·.count)).sum := by
  rw [occurrences, List.sum_eq_foldl, List.foldl_map]

theorem IsListing.occurrences_eq {table : RuleTable} {scans : List ScannedText}
    {fs : List ApiFinding} (h : IsListing table scans fs) (tier : Tier) :
    Readiness.occurrences tier fs =
      ((table.scored.filter (·.rule.tier = tier)).map (·.total scans)).sum := by
  have hcount : ∀ rs : List ScoredRule,
      Readiness.occurrences tier ((rs.filter fun r => 0 < r.total scans).map (·.finding scans)) =
        ((rs.filter (·.rule.tier = tier)).map (·.total scans)).sum := by
    intro rs
    induction rs with
    | nil => rfl
    | cons r rs ih =>
      rw [occurrences_eq_sum] at ih ⊢
      by_cases htier : r.rule.tier = tier <;> by_cases hzero : r.total scans = 0 <;>
        simp_all [ScoredRule.finding, Nat.pos_iff_ne_zero]
  rw [← hcount, occurrences_eq_sum, occurrences_eq_sum]
  exact ((h.perm_findings.filter _).map _).sum_eq

theorem RuleTable.occurrences_eq (table : RuleTable) (tier : Tier) (files : List SourceFile) :
    table.occurrences tier files =
      ((table.scored.filter (·.rule.tier = tier)).map (·.total (Inventory.texts files))).sum := by
  induction files with
  | nil => simp [occurrences, Inventory.texts]
  | cons f files ih =>
    unfold occurrences at ih ⊢
    rw [List.map_cons, List.sum_cons, ih]
    cases h : f.text with
    | none => simp [Inventory.texts, h]
    | some text => simp [Inventory.texts, h, List.sum_map_add]

theorem IsListing.any_tier_iff {table : RuleTable} {scans : List ScannedText}
    {fs : List ApiFinding} (h : IsListing table scans fs) (tier : Tier) :
    fs.any (·.tier = tier) ↔ 0 < Readiness.occurrences tier fs := by
  rw [List.any_eq_true, occurrences_eq_sum, Nat.pos_iff_ne_zero, Ne, List.sum_eq_zero_iff]
  push Not
  constructor
  · rintro ⟨f, hf, htier⟩
    obtain ⟨r, -, hpos, rfl⟩ := h.exists_rule hf
    exact ⟨_, List.mem_map_of_mem (List.mem_filter.mpr ⟨hf, htier⟩), hpos.ne'⟩
  · rintro ⟨n, hn, -⟩
    obtain ⟨f, hf, rfl⟩ := List.mem_map.mp hn
    exact ⟨f, List.mem_filter.mp hf⟩

namespace Analysis
variable (table : RuleTable) (projectPath : String) (files : List SourceFile)
  (dependencies : List Dependency)

theorem length_flatten_paths :
    ((files.map (scan table)).map (·.paths)).flatten.length = ReservedPath.found files := by
  rw [List.length_flatten, ReservedPath.found, List.map_map, List.map_map]
  congr 1
  refine List.map_congr_left fun f _ => ?_
  simp only [Function.comp_apply, scan]
  cases f.text with
  | none => rfl
  | some text => dsimp only; split_ifs <;> rfl

/-- **The totals of a report are those of its files**, except that reserved paths beyond the
twentieth do not count. -/
theorem assemble_totals :
    Totals.ofFindings (assemble table projectPath files dependencies).apiUsages
      (assemble table projectPath files dependencies).pathUsages =
    ⟨table.occurrences .blocking files, table.occurrences .needsRework files,
      min 20 (ReservedPath.found files)⟩ := by
  have hlisting := assemble_isListing table projectPath files dependencies
  have hpaths : (assemble table projectPath files dependencies).pathUsages.length =
      min 20 (ReservedPath.found files) := by
    rw [← length_flatten_paths table, ← List.length_take]
    rfl
  rw [Totals.ofFindings, hlisting.occurrences_eq, hlisting.occurrences_eq, hpaths,
    table.occurrences_eq, table.occurrences_eq]

theorem assemble_grade : (assemble table projectPath files dependencies).grade =
    (Totals.mk (table.occurrences .blocking files) (table.occurrences .needsRework files)
      (min 20 (ReservedPath.found files))).outcome.grade := by
  rw [← assemble_totals table projectPath files dependencies]
  rfl

theorem assemble_recommendations :
    (assemble table projectPath files dependencies).recommendations = Signals.advice {
      grade := (assemble table projectPath files dependencies).grade
      hasBlocking := decide (0 < table.occurrences .blocking files)
      hasUnknownDependency := dependencies.any (·.availability = .unknown) } := by
  have hlisting := assemble_isListing table projectPath files dependencies
  have hany := hlisting.any_tier_iff .blocking
  rw [hlisting.occurrences_eq, ← table.occurrences_eq] at hany
  rw [← Bool.eq_iff_iff.mpr (hany.trans decide_eq_true_iff.symm)]
  rfl

/-! ### Grade and advice -/

theorem assemble_grade_eq_D_iff : (assemble table projectPath files dependencies).grade = .D ↔
    5 < table.occurrences .blocking files := by
  rw [assemble_grade, Totals.grade_eq_D_iff]
  have hcut : ¬ 20 < min 20 (ReservedPath.found files) := by omega
  simp only [hcut, or_false]

theorem assemble_grade_eq_C_iff : (assemble table projectPath files dependencies).grade = .C ↔
    table.occurrences .blocking files ≤ 5 ∧ (0 < table.occurrences .blocking files ∨
      10 < ReservedPath.found files ∨ 20 < table.occurrences .needsRework files) := by
  rw [assemble_grade, Totals.grade_eq_C_iff]
  dsimp only
  omega

theorem assemble_grade_eq_B_iff : (assemble table projectPath files dependencies).grade = .B ↔
    table.occurrences .blocking files = 0 ∧ ReservedPath.found files ≤ 10 ∧
      5 < table.occurrences .needsRework files ∧ table.occurrences .needsRework files ≤ 20 := by
  rw [assemble_grade, Totals.grade_eq_B_iff]
  dsimp only
  omega

theorem assemble_grade_eq_A_iff : (assemble table projectPath files dependencies).grade = .A ↔
    table.occurrences .blocking files = 0 ∧ ReservedPath.found files ≤ 10 ∧
      table.occurrences .needsRework files ≤ 5 := by
  rw [assemble_grade, Totals.grade_eq_A_iff]
  dsimp only
  omega

theorem assemble_recommendations_eq :
    (assemble table projectPath files dependencies).recommendations =
      (if (assemble table projectPath files dependencies).grade = .C ∨
          (assemble table projectPath files dependencies).grade = .D then
        ["evaluate alternative libraries", "confirm porting necessity with the team"] else []) ++
      (if 0 < table.occurrences .blocking files then
        ["isolate Linux-specific code into a separate module"] else []) ++
      (if ∃ dep ∈ dependencies, dep.availability = .unknown then
        ["verify dependency availability on the target"] else []) := by
  rw [assemble_recommendations, Signals.advice_eq]
  simp only [decide_eq_true_eq, List.any_eq_true]

theorem nodup_assemble_recommendations :
    (assemble table projectPath files dependencies).recommendations.Nodup := by
  rw [assemble_recommendations]
  exact Signals.nodup_advice _

theorem prefix_assemble_recommendations
    (h : "isolate Linux-specific code into a separate module" ∈
      (assemble table projectPath files dependencies).recommendations) :
    ["evaluate alternative libraries", "confirm porting necessity with the team",
      "isolate Linux-specific code into a separate module"] <+:
        (assemble table projectPath files dependencies).recommendations := by
  rw [assemble_recommendations] at h ⊢
  refine Signals.prefix_advice (fun hpos => ?_) h
  rw [assemble_grade_eq_C_iff, assemble_grade_eq_D_iff]
  have hblocking := of_decide_eq_true hpos
  omega

end Analysis

/-! ### Larger totals -/

namespace Analysis
variable {t u : RuleTable} {files others : List SourceFile}
  (hblocking : t.occurrences .blocking files ≤ u.occurrences .blocking others)
  (hrework : t.occurrences .needsRework files ≤ u.occurrences .needsRework others)
  (hfound : ReservedPath.found files ≤ ReservedPath.found others)
  (projectPath projectPath' : String) (dependencies dependencies' : List Dependency)
include hblocking hrework hfound

theorem assemble_grade_le :
    (assemble t projectPath files dependencies).grade.rank ≤
      (assemble u projectPath' others dependencies').grade.rank := by
  rw [assemble_grade, assemble_grade]
  refine Totals.rank_outcome_le hblocking hrework ?_
  dsimp only
  omega

theorem assemble_recommendations_sublist
    (hunknown : dependencies.any (·.availability = .unknown) →
      dependencies'.any (·.availability = .unknown)) :
    (assemble t projectPath files dependencies).recommendations.Sublist
      (assemble u projectPath' others dependencies').recommendations := by
  have hgrade := assemble_grade_le hblocking hrework hfound projectPath projectPath' dependencies
    dependencies'
  rw [assemble_recommendations, assemble_recommendations]
  refine Signals.advice_sublist hgrade (fun hpos => ?_) hunknown
  exact decide_eq_true ((of_decide_eq_true hpos).trans_le hblocking)

end Analysis

/-! ## Runs -/

namespace Analysis

theorem run_eq {d : Disk} {root : String} {names : List String} (h : findRoot d root = .ok names)
    (o : Options) :
    run d root o = .ok (ofFolder o (Disk.canonical names) (folderAt d names)) := by
  rw [run, h]
  rfl

/-- **Grade and advice of a run**, told from the totals of the tree: every match of a blocking or a
rework rule in any file counts, and every reserved path in a source file. Reserved paths alone never
lead to the worst grade, as no more than twenty of them are kept. -/
theorem run_grade_and_advice (d : Disk) (root : String) (o : Options) (names : List String)
    (hroot : findRoot d root = .ok names) :
    let files := Inventory.collect (folderAt d names) o.exclusions
    let blocking := o.rules.occurrences .blocking files
    let rework := o.rules.occurrences .needsRework files
    let paths := ReservedPath.found files
    ∃ r, run d root o = .ok r ∧
      (r.grade = .D ↔ 5 < blocking) ∧
      (r.grade = .C ↔ blocking ≤ 5 ∧ (0 < blocking ∨ 10 < paths ∨ 20 < rework)) ∧
      (r.grade = .B ↔ blocking = 0 ∧ paths ≤ 10 ∧ 5 < rework ∧ rework ≤ 20) ∧
      (r.grade = .A ↔ blocking = 0 ∧ paths ≤ 10 ∧ rework ≤ 5) ∧
      r.recommendations =
        (if r.grade = .C ∨ r.grade = .D then
          ["evaluate alternative libraries", "confirm porting necessity with the team"] else []) ++
        (if 0 < blocking then ["isolate Linux-specific code into a separate module"] else []) ++
        (if ∃ dep ∈ r.dependencies, dep.availability = .unknown then
          ["verify dependency availability on the target"] else []) ∧
      r.recommendations.Nodup ∧
      ("isolate Linux-specific code into a separate module" ∈ r.recommendations →
        ["evaluate alternative libraries", "confirm porting necessity with the team",
          "isolate Linux-specific code into a separate module"] <+: r.recommendations) := by
  intro files blocking rework paths
  let deps := dependencies o.allowlist (folderAt d names)
  refine ⟨_, run_eq hroot o, ?_, ?_, ?_, ?_, ?_, ?_, ?_⟩
  · exact assemble_grade_eq_D_iff o.rules (Disk.canonical names) files deps
  · exact assemble_grade_eq_C_iff o.rules (Disk.canonical names) files deps
  · exact assemble_grade_eq_B_iff o.rules (Disk.canonical names) files deps
  · exact assemble_grade_eq_A_iff o.rules (Disk.canonical names) files deps
  · exact assemble_recommendations_eq o.rules (Disk.canonical names) files deps
  · exact nodup_assemble_recommendations o.rules (Disk.canonical names) files deps
  · exact prefix_assemble_recommendations o.rules (Disk.canonical names) files deps

/-- A folder with two source files, of which one calls a blocking interface, and a build file. -/
def sampleFolder : Node :=
  .folder [("lib", .folder [("map.cpp", .file (some (Utf8.encode "bpf(0);".toList)))]),
    ("main.c", .file (some (Utf8.encode "fork(); fork();".toList))),
    (BuildFile.fileName, .file (some (Utf8.encode "find_package(Qt5)".toList)))]

theorem collect_sampleFolder : Inventory.collect sampleFolder [] =
    [⟨"lib/map.cpp", .cpp, some "bpf(0);".toList⟩,
      ⟨"main.c", .c, some "fork(); fork();".toList⟩] := by
  have hkept : (sampleFolder.files.filterMap Inventory.classify?).filter
      (fun f => !Inventory.isExcluded [] f.path) =
    [⟨"lib/map.cpp", .cpp, some "bpf(0);".toList⟩,
      ⟨"main.c", .c, some "fork(); fork();".toList⟩] := by decide +kernel
  rw [Inventory.collect, hkept]
  exact List.mergeSort_of_pairwise (by decide +kernel)

theorem run_grade_and_advice_sample :
    findRoot ⟨sampleFolder, []⟩ "." = .ok [] ∧
      ∃ r, run ⟨sampleFolder, []⟩ "." ⟨MergeTree.sampleTable, .builtin, []⟩ = .ok r ∧
        r.grade = .C ∧ r.recommendations.Nodup := by
  have hroot : findRoot ⟨sampleFolder, []⟩ "." = .ok [] := by cbv
  obtain ⟨r, hr, -, hC, -, -, -, hnodup, -⟩ := run_grade_and_advice ⟨sampleFolder, []⟩ "."
    ⟨MergeTree.sampleTable, .builtin, []⟩ [] hroot
  have hone : MergeTree.sampleTable.occurrences .blocking
      (Inventory.collect (folderAt ⟨sampleFolder, []⟩ []) []) = 1 := by
    rw [show folderAt ⟨sampleFolder, []⟩ [] = sampleFolder from rfl, collect_sampleFolder]
    decide +kernel
  refine ⟨hroot, r, hr, hC.mpr ?_, hnodup⟩
  rw [hone]
  omega

end Analysis

end Readiness
