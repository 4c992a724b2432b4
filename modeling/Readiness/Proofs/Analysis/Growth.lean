import Readiness.Proofs.Analysis.Files
import Readiness.Proofs.Analysis.Noninterference
import Readiness.Proofs.Disk.Extend

/-!
# More files never help

A tree with more files, or with fewer exclusions, has a report that is nowhere milder: the numbers
only grow, and so does everything that is decided by them.

* `Report.Grows` : when a report on more files is nowhere milder than a report on fewer.
* `Analysis.assemble_grows` : reports on lists of files.
* `Analysis.run_grows` : reports on trees.
-/

namespace Readiness

/-- Whether statistics have at least as many files of each kind and as many lines as others. -/
structure FileStats.Grows (s t : FileStats) : Prop where
  c_le : s.c ≤ t.c
  cpp_le : s.cpp ≤ t.cpp
  header_le : s.header ≤ t.header
  lines_le : s.lines ≤ t.lines

/-- Whether a report on more texts is nowhere milder than one on fewer. No rule has fewer matches,
whatever was found is still found, and grade and advice are at least as strict. -/
structure Report.Grows (table : RuleTable) (scans others : List ScannedText) (r s : Report) :
    Prop where
  listing : IsListing table scans r.apiUsages
  listing' : IsListing table others s.apiUsages
  total_le : ∀ rule ∈ table.scored, rule.total scans ≤ rule.total others
  still_found : ∀ f ∈ r.apiUsages, ∃ rule ∈ table.scored,
    f = rule.finding scans ∧ rule.finding others ∈ s.apiUsages ∧
      f.count ≤ (rule.finding others).count
  stats : r.fileStats.Grows s.fileStats
  pathUsages_le : r.pathUsages.length ≤ s.pathUsages.length
  grade_le : r.grade.rank ≤ s.grade.rank
  advice_sublist : r.recommendations.Sublist s.recommendations

/-! ## Totals -/

section
variable {files others : List SourceFile}

theorem sum_map_le_of_subperm {α : Type} {xs ys : List α} (h : xs.Subperm ys) (f : α → Nat) :
    (xs.map f).sum ≤ (ys.map f).sum := by
  obtain ⟨zs, hperm, hsub⟩ := h
  rw [← (hperm.map f).sum_eq]
  exact (hsub.map f).sum_le_sum fun _ _ => Nat.zero_le _

theorem Inventory.stats_grows (h : files.Subperm others) : (stats files).Grows (stats others) where
  c_le := h.countP_le _
  cpp_le := h.countP_le _
  header_le := h.countP_le _
  lines_le := sum_map_le_of_subperm h _

theorem Inventory.texts_subperm (h : files.Subperm others) :
    (texts files).Subperm (texts others) := by
  obtain ⟨zs, hperm, hsub⟩ := h
  exact ⟨texts zs, hperm.filterMap _, hsub.filterMap _⟩

theorem ScoredRule.total_le (r : ScoredRule) (h : files.Subperm others) :
    r.total (Inventory.texts files) ≤ r.total (Inventory.texts others) :=
  sum_map_le_of_subperm (Inventory.texts_subperm h) _

theorem RuleTable.occurrences_le (table : RuleTable) (tier : Tier) (h : files.Subperm others) :
    table.occurrences tier files ≤ table.occurrences tier others :=
  sum_map_le_of_subperm h _

theorem ReservedPath.found_le (h : files.Subperm others) : found files ≤ found others :=
  sum_map_le_of_subperm h _

end

/-! ## Reports -/

namespace Analysis
variable {table : RuleTable} {files others : List SourceFile}

theorem still_found_of_subperm (h : files.Subperm others) {fs gs : List ApiFinding}
    (hfs : IsListing table (Inventory.texts files) fs)
    (hgs : IsListing table (Inventory.texts others) gs) {f : ApiFinding} (hf : f ∈ fs) :
    ∃ rule ∈ table.scored, f = rule.finding (Inventory.texts files) ∧
      rule.finding (Inventory.texts others) ∈ gs ∧
      f.count ≤ (rule.finding (Inventory.texts others)).count := by
  obtain ⟨rule, hrule, hpos, rfl⟩ := hfs.exists_rule hf
  have hle := rule.total_le h
  exact ⟨rule, hrule, rfl, hgs.finding_mem hrule (hpos.trans_le hle), hle⟩

theorem length_assemble_pathUsages (projectPath : String) (dependencies : List Dependency) :
    (assemble table projectPath files dependencies).pathUsages.length =
      min 20 (ReservedPath.found files) :=
  congrArg Totals.pathUsages (assemble_totals table projectPath files dependencies)

/-- **A report on more files is nowhere milder**, if no unknown dependency is forgotten. -/
theorem assemble_grows (h : files.Subperm others) (projectPath projectPath' : String)
    {dependencies dependencies' : List Dependency}
    (hunknown : dependencies.any (·.availability = .unknown) →
      dependencies'.any (·.availability = .unknown)) :
    Report.Grows table (Inventory.texts files) (Inventory.texts others)
      (assemble table projectPath files dependencies)
      (assemble table projectPath' others dependencies') where
  listing := assemble_isListing table projectPath files dependencies
  listing' := assemble_isListing table projectPath' others dependencies'
  total_le rule _ := rule.total_le h
  still_found _ hf := still_found_of_subperm h (assemble_isListing table projectPath files _)
    (assemble_isListing table projectPath' others _) hf
  stats := by
    rw [assemble_fileStats, assemble_fileStats]
    exact Inventory.stats_grows h
  pathUsages_le := by
    have hpaths := ReservedPath.found_le h
    rw [length_assemble_pathUsages, length_assemble_pathUsages]
    omega
  grade_le := assemble_grade_le (table.occurrences_le _ h) (table.occurrences_le _ h)
    (ReservedPath.found_le h) _ _ _ _
  advice_sublist := assemble_recommendations_sublist (table.occurrences_le _ h)
    (table.occurrences_le _ h) (ReservedPath.found_le h) _ _ _ _ hunknown

/-! ## Runs -/

theorem findRoot_eq_ok_iff {d : Disk} {root : String} {names : List String} :
    findRoot d root = .ok names ↔
      d.resolve root = .ok names ∧ ∃ es, d.root.at? names = some (.folder es) := by
  constructor
  · intro h
    rw [findRoot] at h
    split at h
    · cases h
    · next place hresolve =>
      split at h
      · cases h
      · next es hat =>
        obtain rfl := Except.ok.inj h
        exact ⟨hresolve, es, hat⟩
      · cases h
  · rintro ⟨hresolve, es, hat⟩
    simp only [findRoot, hresolve, hat]

theorem findRoot_mono {t u : Node} {here : List String} {root : String} {names : List String}
    (h : t.IsPartOf u) (hroot : findRoot ⟨t, here⟩ root = .ok names) :
    findRoot ⟨u, here⟩ root = .ok names := by
  obtain ⟨hresolve, es, hat⟩ := findRoot_eq_ok_iff.mp hroot
  obtain ⟨m, hm, hpart⟩ := h.at? hat
  obtain ⟨fs, rfl⟩ := hpart.exists_folder
  exact findRoot_eq_ok_iff.mpr ⟨Disk.resolve_mono h hresolve, fs, hm⟩

theorem dependencies_of_isPartOf {t u : Node} (h : t.IsPartOf u) (allowlist : Allowlist) :
    dependencies allowlist t = [] ∨ dependencies allowlist u = dependencies allowlist t := by
  by_cases hread : ∃ bytes, t.at? [BuildFile.fileName] = some (.file (some bytes))
  · obtain ⟨bytes, hread⟩ := hread
    rw [dependencies_of_readable hread, dependencies_of_readable (h.at?_eq_file hread)]
    exact .inr rfl
  · push Not at hread
    exact .inl (dependencies_of_unreadable hread allowlist)

theorem survives_mono {t u : Node} (h : t.IsPartOf u) {exclusions exclusions' : List Glob}
    (hsubset : exclusions' ⊆ exclusions) {names : List String} {content : Option (List UInt8)}
    (hsurvives : Inventory.Survives t exclusions names content) :
    Inventory.Survives u exclusions' names content where
  at_place := h.at?_eq_file hsurvives.at_place
  source := hsurvives.source
  kept := Inventory.isExcluded_of_subset hsubset hsurvives.kept

section
variable {rules : RuleTable} {allowlist : Allowlist} {root : String} {names : List String}
  {exclusions exclusions' : List Glob}

theorem run_grows_of_subset {d : Disk} (hroot : findRoot d root = .ok names)
    (hsubset : exclusions' ⊆ exclusions) :
    ∃ r s, run d root ⟨rules, allowlist, exclusions⟩ = .ok r ∧
      run d root ⟨rules, allowlist, exclusions'⟩ = .ok s ∧
      Report.Grows rules (Inventory.texts (Inventory.collect (folderAt d names) exclusions))
        (Inventory.texts (Inventory.collect (folderAt d names) exclusions')) r s ∧
      s.dependencies = r.dependencies :=
  ⟨_, _, run_eq hroot _, run_eq hroot _,
    assemble_grows (Inventory.collect_subperm_of_subset _ hsubset) _ _ id, rfl⟩

theorem run_grows_of_isPartOf {t u : Node} {here : List String} (ht : t.WellNamed)
    (hu : u.WellNamed) (h : t.IsPartOf u) (hroot : findRoot ⟨t, here⟩ root = .ok names)
    (hsubset : exclusions' ⊆ exclusions) :
    ∃ r s, run ⟨t, here⟩ root ⟨rules, allowlist, exclusions⟩ = .ok r ∧
      run ⟨u, here⟩ root ⟨rules, allowlist, exclusions'⟩ = .ok s ∧
      Report.Grows rules
        (Inventory.texts (Inventory.collect (folderAt ⟨t, here⟩ names) exclusions))
        (Inventory.texts (Inventory.collect (folderAt ⟨u, here⟩ names) exclusions')) r s ∧
      (SameBuildFile (folderAt ⟨t, here⟩ names) (folderAt ⟨u, here⟩ names) →
        s.dependencies = r.dependencies) := by
  have hroot' := findRoot_mono h hroot
  obtain ⟨-, inner, hat⟩ := findRoot_eq_ok_iff.mp hroot
  obtain ⟨es, hes⟩ := Disk.exists_followed?_folder hat
  obtain ⟨m, hm, hpart⟩ := Disk.exists_followed?_of_isPartOf h ht hu hes
  obtain ⟨fs, rfl⟩ := hpart.exists_folder
  have hfolder : folderAt ⟨t, here⟩ names = .folder es := by rw [folderAt, hes]; rfl
  have hfolder' : folderAt ⟨u, here⟩ names = .folder fs := by rw [folderAt, hm]; rfl
  have hmore : (Inventory.collect (.folder es) exclusions).Subperm
      (Inventory.collect (.folder fs) exclusions') :=
    Inventory.collect_subperm (Disk.isTree_of_followed? ht hes) (Disk.isTree_of_followed? hu hm)
      fun _ _ => survives_mono hpart hsubset
  refine ⟨_, _, run_eq hroot _, run_eq hroot' _, ?_, fun hbuild => ?_⟩
  · rw [hfolder, hfolder']
    refine assemble_grows hmore _ _ fun hunknown => ?_
    rcases dependencies_of_isPartOf hpart allowlist with hnone | hsame
    · rw [hnone] at hunknown
      cases hunknown
    · rwa [hsame]
  · exact (dependencies_congr hbuild allowlist).symm

end

/-- **More files never help.** For all rules and all libraries of the target:

* when a disk gets more files, folders or links anywhere and exclusions are taken away, the report
  on a folder grows: no rule and no statistic gets smaller, every rule that was found is found with
  at least as many matches, no fewer reserved paths are kept, the grade is no better, and all advice
  is still given, in its order; the dependencies stay the same if the build file does;
* the same holds of every disk when exclusions are taken away, where the dependencies stay the same
  in any case. -/
theorem run_grows (rules : RuleTable) (allowlist : Allowlist) :
    (∀ t u here root names exclusions exclusions', t.WellNamed → u.WellNamed → t.IsPartOf u →
      findRoot ⟨t, here⟩ root = .ok names → exclusions' ⊆ exclusions →
      ∃ r s, run ⟨t, here⟩ root ⟨rules, allowlist, exclusions⟩ = .ok r ∧
        run ⟨u, here⟩ root ⟨rules, allowlist, exclusions'⟩ = .ok s ∧
        Report.Grows rules
          (Inventory.texts (Inventory.collect (folderAt ⟨t, here⟩ names) exclusions))
          (Inventory.texts (Inventory.collect (folderAt ⟨u, here⟩ names) exclusions')) r s ∧
        (SameBuildFile (folderAt ⟨t, here⟩ names) (folderAt ⟨u, here⟩ names) →
          s.dependencies = r.dependencies)) ∧
    (∀ d root names exclusions exclusions', findRoot d root = .ok names →
      exclusions' ⊆ exclusions →
      ∃ r s, run d root ⟨rules, allowlist, exclusions⟩ = .ok r ∧
        run d root ⟨rules, allowlist, exclusions'⟩ = .ok s ∧
        Report.Grows rules (Inventory.texts (Inventory.collect (folderAt d names) exclusions))
          (Inventory.texts (Inventory.collect (folderAt d names) exclusions')) r s ∧
        s.dependencies = r.dependencies) := by
  constructor
  · intro t u here root names exclusions exclusions' ht hu h hroot hsubset
    exact run_grows_of_isPartOf ht hu h hroot hsubset
  · intro d root names exclusions exclusions' hroot hsubset
    exact run_grows_of_subset hroot hsubset

/-- A folder with a link that leads nowhere. -/
def linkFolder : Node :=
  .folder [("deps", .link "lib"),
    (BuildFile.fileName, .file (some (Utf8.encode "find_package(Qt5)".toList))),
    ("main.c", .file (some (Utf8.encode "fork(); fork();".toList)))]

/-- The folder with the folder that its link leads to, and a file in it. -/
def linkedFolder : Node :=
  linkFolder.put ["lib", "map.cpp"] (.file (some (Utf8.encode "bpf(0);".toList)))

theorem isPartOf_linkedFolder : linkFolder.IsPartOf linkedFolder := by
  refine Node.isPartOf_put _ rfl fun before k hbefore hk => ?_
  rcases List.prefix_cons_iff.mp hbefore with rfl | ⟨rest, rfl, -⟩
  · exact ⟨_, (Option.some.inj hk).symm⟩
  · cases hk

theorem wellNamed_linkFolder : linkFolder.WellNamed := by
  refine .folder (by decide +kernel) (by decide +kernel) ?_
  simp only [List.forall_mem_cons, List.not_mem_nil, false_imp_iff, implies_true, and_true]
  exact ⟨.link _, .file _, .file _⟩

theorem wellNamed_linkedFolder : linkedFolder.WellNamed :=
  wellNamed_linkFolder.put (.file _) (by decide +kernel)

/-- A library is added and no longer excluded, or no longer excluded only. -/
theorem run_grows_sample :
    linkFolder.WellNamed ∧ linkedFolder.WellNamed ∧ linkFolder.IsPartOf linkedFolder ∧
      findRoot ⟨linkFolder, []⟩ "." = .ok [] ∧
      (∃ r s, run ⟨linkFolder, []⟩ "." ⟨MergeTree.sampleTable, .builtin, [libGlob]⟩ = .ok r ∧
        run ⟨linkedFolder, []⟩ "." ⟨MergeTree.sampleTable, .builtin, []⟩ = .ok s ∧
        r.grade.rank ≤ s.grade.rank ∧ s.dependencies = r.dependencies) ∧
      ∃ r s, run ⟨sampleFolder, []⟩ "." ⟨MergeTree.sampleTable, .builtin, [libGlob]⟩ = .ok r ∧
        run ⟨sampleFolder, []⟩ "." ⟨MergeTree.sampleTable, .builtin, []⟩ = .ok s ∧
        r.recommendations.Sublist s.recommendations := by
  have hroot : findRoot ⟨linkFolder, []⟩ "." = .ok [] := by cbv
  have hroot' : findRoot ⟨sampleFolder, []⟩ "." = .ok [] := by cbv
  have hbuild : SameBuildFile (folderAt ⟨linkFolder, []⟩ []) (folderAt ⟨linkedFolder, []⟩ []) := by
    intro bytes
    rw [show (folderAt ⟨linkFolder, []⟩ []).at? [BuildFile.fileName] =
      (folderAt ⟨linkedFolder, []⟩ []).at? [BuildFile.fileName] by cbv]
  obtain ⟨hmore, hfewer⟩ := run_grows MergeTree.sampleTable .builtin
  obtain ⟨r, s, hr, hs, hgrows, hdeps⟩ := hmore _ _ _ _ _ _ _ wellNamed_linkFolder
    wellNamed_linkedFolder isPartOf_linkedFolder hroot (List.nil_subset [libGlob])
  obtain ⟨r', s', hr', hs', hgrows', -⟩ := hfewer _ _ _ _ _ hroot' (List.nil_subset [libGlob])
  exact ⟨wellNamed_linkFolder, wellNamed_linkedFolder, isPartOf_linkedFolder, hroot,
    ⟨r, s, hr, hs, hgrows.grade_le, hdeps hbuild⟩, r', s', hr', hs', hgrows'.advice_sublist⟩

end Analysis

end Readiness
