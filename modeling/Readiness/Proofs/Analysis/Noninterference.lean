import Readiness.Proofs.Analysis.Totals
import Readiness.Proofs.Inventory.Collect

/-!
# What a report depends on

Reports depend on the files that survive the exclusions and on the build file at the root, and on
nothing else in a tree.

* `Analysis.SameRuns` : two runs with equal reports, apart from the path of the project.
* `Analysis.run_noninterference` : when two runs are such.
-/

namespace Readiness

/-- Whether two reports differ in the path of the project at most. -/
def Report.SameApartFromPath (r s : Report) : Prop :=
  { r with projectPath := s.projectPath } = s

namespace Analysis

/-- Whether the root path leads to the tree, a folder of files and folders. -/
structure HasTree (d : Disk) (root : String) (tree : Node) : Prop where
  node : d.node? root = some tree
  isTree : tree.IsTree
  isFolder : ∃ entries, tree = .folder entries

/-- Whether the trees have the same build file at their roots, or none that can be read. -/
def SameBuildFile (t u : Node) : Prop :=
  ∀ bytes, t.at? [BuildFile.fileName] = some (.file (some bytes)) ↔
    u.at? [BuildFile.fileName] = some (.file (some bytes))

/-- Whether both runs end in reports that differ in the path of the project at most. -/
def SameRuns (d : Disk) (root : String) (o : Options) (d' : Disk) (root' : String) (o' : Options) :
    Prop :=
  ∃ r r', run d root o = .ok r ∧ run d' root' o' = .ok r' ∧ r.SameApartFromPath r'

/-! ## One run -/

theorem HasTree.run_eq {d : Disk} {root : String} {tree : Node} (h : HasTree d root tree)
    (o : Options) : ∃ path, run d root o = .ok (ofFolder o path tree) := by
  obtain ⟨entries, rfl⟩ := h.isFolder
  have hnode := h.node
  rw [Disk.node?] at hnode
  split at hnode
  · next names hresolve =>
    have hroot : findRoot d root = .ok names := by
      simp only [findRoot, hresolve, hnode]
    have hfolder : folderAt d names = .folder entries := by
      rw [folderAt, Disk.followed?, Disk.linkLimit, Disk.followWithin, hnode, Option.bind_some,
        h.isTree.follow_eq, Option.getD_some]
    exact ⟨_, hfolder ▸ Analysis.run_eq hroot o⟩
  · cases hnode

theorem hasTree_here {tree : Node} (h : tree.IsTree) (hfolder : ∃ entries, tree = .folder entries) :
    HasTree ⟨tree, []⟩ "." tree := by
  refine ⟨?_, h, hfolder⟩
  obtain ⟨entries, rfl⟩ := hfolder
  cbv

theorem dependencies_of_readable {t : Node} {bytes : List UInt8}
    (h : t.at? [BuildFile.fileName] = some (.file (some bytes))) (allowlist : Allowlist) :
    dependencies allowlist t = BuildFile.dependencies allowlist (Utf8.decode bytes) := by
  rw [Node.at?_cons, Option.bind_eq_some_iff] at h
  obtain ⟨m, hm, hat⟩ := h
  cases hat
  rw [dependencies, hm]

theorem dependencies_of_unreadable {t : Node}
    (h : ∀ bytes, t.at? [BuildFile.fileName] ≠ some (.file (some bytes))) (allowlist : Allowlist) :
    dependencies allowlist t = [] := by
  rw [dependencies]
  split
  · next bytes hchild =>
    refine absurd ?_ (h bytes)
    rw [Node.at?_cons, hchild]
    rfl
  · rfl

theorem dependencies_congr {t u : Node} (h : SameBuildFile t u) (allowlist : Allowlist) :
    dependencies allowlist t = dependencies allowlist u := by
  by_cases hread : ∃ bytes, t.at? [BuildFile.fileName] = some (.file (some bytes))
  · obtain ⟨bytes, hread⟩ := hread
    rw [dependencies_of_readable hread, dependencies_of_readable ((h bytes).mp hread)]
  · push Not at hread
    rw [dependencies_of_unreadable hread,
      dependencies_of_unreadable fun bytes hu => hread bytes ((h bytes).mpr hu)]

theorem SameRuns.of_collect_eq {d d' : Disk} {root root' : String} {t u : Node} {o o' : Options}
    (ht : HasTree d root t) (hu : HasTree d' root' u) (hrules : o.rules = o'.rules)
    (hallowlist : o.allowlist = o'.allowlist)
    (hcollect : Inventory.collect t o.exclusions = Inventory.collect u o'.exclusions)
    (hbuild : SameBuildFile t u) : SameRuns d root o d' root' o' := by
  obtain ⟨path, hrun⟩ := ht.run_eq o
  obtain ⟨path', hrun'⟩ := hu.run_eq o'
  refine ⟨_, _, hrun, hrun', ?_⟩
  rw [ofFolder, ofFolder, hcollect, dependencies_congr hbuild, hrules, hallowlist]
  rfl

/-! ## Two runs -/

section
variable {d d' : Disk} {root root' : String} {t u : Node} {rules : RuleTable}
  {allowlist : Allowlist} {exclusions exclusions' : List Glob}

theorem SameRuns.of_survives_iff (ht : HasTree d root t) (hu : HasTree d' root' u)
    (hsame : ∀ names content, Inventory.Survives t exclusions names content ↔
      Inventory.Survives u exclusions' names content) (hbuild : SameBuildFile t u) :
    SameRuns d root ⟨rules, allowlist, exclusions⟩ d' root' ⟨rules, allowlist, exclusions'⟩ := by
  obtain ⟨es, rfl⟩ := ht.isFolder
  obtain ⟨fs, rfl⟩ := hu.isFolder
  exact .of_collect_eq ht hu rfl rfl (Inventory.collect_congr ht.isTree hu.isTree hsame) hbuild

theorem not_source_fileName : ¬ ∃ name ∈ [BuildFile.fileName].getLast?,
    Category.IsSourceName name := by
  have hname : ∀ x ∈ [BuildFile.fileName], IsName x := by decide
  rw [Inventory.source_iff hname, Path.ofNames_singleton]
  decide +kernel

theorem SameRuns.prune (ht : HasTree d root t)
    (hu : d'.node? root' = some (Inventory.prune t exclusions)) :
    SameRuns d root ⟨rules, allowlist, exclusions⟩ d' root' ⟨rules, allowlist, []⟩ := by
  obtain ⟨es, rfl⟩ := ht.isFolder
  have hu' : HasTree d' root' (Inventory.prune (.folder es) exclusions) :=
    ⟨hu, ht.isTree.eraseAll _, Node.exists_eraseAll_folder _ _⟩
  refine .of_survives_iff ht hu' (fun _ _ => (Inventory.survives_prune_iff ht.isTree).symm) ?_
  intro bytes
  rw [Inventory.at?_prune_eq_file_iff ht.isTree]
  refine ⟨fun hat => ⟨hat, fun hmem => ?_⟩, And.left⟩
  exact not_source_fileName ((Inventory.mem_excludedPlaces_iff ht.isTree).mp hmem).2.1

theorem SameRuns.of_reordered (ht : HasTree d root t) (hu : d'.node? root' = some u)
    (h : t.Reordered u) :
    SameRuns d root ⟨rules, allowlist, exclusions⟩ d' root' ⟨rules, allowlist, exclusions⟩ := by
  have hfile := h.at?_eq_file_iff ht.isTree
  have hu' : HasTree d' root' u := by
    refine ⟨hu, h.isTree ht.isTree, ?_⟩
    obtain ⟨es, rfl⟩ := ht.isFolder
    exact h.exists_folder
  refine .of_survives_iff ht hu' (fun names content => ?_) fun bytes => hfile _ _
  constructor
  · rintro ⟨hat, hsource, hkept⟩
    exact ⟨(hfile names content).mp hat, hsource, hkept⟩
  · rintro ⟨hat, hsource, hkept⟩
    exact ⟨(hfile names content).mpr hat, hsource, hkept⟩

end

/-- **Noninterference.** For all rules and all libraries of the target:

* two trees in which the same files survive, with the same build file at the root, have the same
  report, apart from the path of the project;
* excluding files is the same as deleting those of known kinds that are excluded;
* files of no known kind other than the build file at the root do not matter;
* the order of entries does not matter;
* exclusions do not change the dependencies. -/
theorem run_noninterference (rules : RuleTable) (allowlist : Allowlist) :
    (∀ d d' root root' t u exclusions exclusions', HasTree d root t → HasTree d' root' u →
      (∀ names content, Inventory.Survives t exclusions names content ↔
        Inventory.Survives u exclusions' names content) →
      SameBuildFile t u →
      SameRuns d root ⟨rules, allowlist, exclusions⟩ d' root' ⟨rules, allowlist, exclusions'⟩) ∧
    (∀ d d' root root' t exclusions, HasTree d root t →
      d'.node? root' = some (Inventory.prune t exclusions) →
      SameRuns d root ⟨rules, allowlist, exclusions⟩ d' root' ⟨rules, allowlist, []⟩) ∧
    (∀ d d' root root' t u exclusions, HasTree d root t → HasTree d' root' u →
      (∀ names content, (∃ name ∈ names.getLast?, Category.IsSourceName name) →
        (t.at? names = some (.file content) ↔ u.at? names = some (.file content))) →
      SameBuildFile t u →
      SameRuns d root ⟨rules, allowlist, exclusions⟩ d' root' ⟨rules, allowlist, exclusions⟩) ∧
    (∀ d d' root root' t u exclusions, HasTree d root t → d'.node? root' = some u →
      t.Reordered u →
      SameRuns d root ⟨rules, allowlist, exclusions⟩ d' root' ⟨rules, allowlist, exclusions⟩) ∧
    (∀ d root exclusions exclusions',
      (run d root ⟨rules, allowlist, exclusions⟩).map (·.dependencies) =
        (run d root ⟨rules, allowlist, exclusions'⟩).map (·.dependencies)) := by
  refine ⟨?_, ?_, ?_, ?_, ?_⟩
  · intro d d' root root' t u exclusions exclusions' ht hu hsame hbuild
    exact .of_survives_iff ht hu hsame hbuild
  · intro d d' root root' t exclusions ht hu
    exact .prune ht hu
  · intro d d' root root' t u exclusions ht hu hsame hbuild
    refine .of_survives_iff ht hu (fun names content => ?_) hbuild
    constructor
    · rintro ⟨hat, hsource, hkept⟩
      exact ⟨(hsame names content hsource).mp hat, hsource, hkept⟩
    · rintro ⟨hat, hsource, hkept⟩
      exact ⟨(hsame names content hsource).mpr hat, hsource, hkept⟩
  · intro d d' root root' t u exclusions ht hu h
    exact .of_reordered ht hu h
  · intro d root exclusions exclusions'
    cases hroot : findRoot d root with
    | error e => simp [run, hroot, bind, Except.bind, Except.map]
    | ok names =>
      rw [Analysis.run_eq hroot, Analysis.run_eq hroot]
      rfl

/-- The folder `sampleFolder` in another order, without its library and with a text about it. -/
def smallFolder : Node :=
  .folder [(BuildFile.fileName, .file (some (Utf8.encode "find_package(Qt5)".toList))),
    ("README.md", .file none),
    ("main.c", .file (some (Utf8.encode "fork(); fork();".toList)))]

/-- Covers whatever stands in the folder `lib`. -/
def libGlob : Glob := ⟨"lib/*", [.char 'l', .char 'i', .char 'b', .char '/', .many]⟩

theorem isTree_sampleFolder : sampleFolder.IsTree := by
  refine .folder (by decide +kernel) (by decide +kernel) ?_
  simp only [List.forall_mem_cons, List.not_mem_nil, false_imp_iff, implies_true, and_true]
  refine ⟨.folder (by decide +kernel) (by decide +kernel) ?_, .file _, .file _⟩
  simpa using .file _

theorem isTree_smallFolder : smallFolder.IsTree := by
  refine .folder (by decide +kernel) (by decide +kernel) ?_
  simp only [List.forall_mem_cons, List.not_mem_nil, false_imp_iff, implies_true, and_true]
  exact ⟨.file _, .file _, .file _⟩

/-- The two folders have the same report if the library is excluded from the first, and so has the
first without it. -/
theorem run_noninterference_sample :
    HasTree ⟨sampleFolder, []⟩ "." sampleFolder ∧ HasTree ⟨smallFolder, []⟩ "." smallFolder ∧
      (∀ names content, Inventory.Survives sampleFolder [libGlob] names content ↔
        Inventory.Survives smallFolder [] names content) ∧
      SameBuildFile sampleFolder smallFolder ∧
      SameRuns ⟨sampleFolder, []⟩ "." ⟨MergeTree.sampleTable, .builtin, [libGlob]⟩
        ⟨smallFolder, []⟩ "." ⟨MergeTree.sampleTable, .builtin, []⟩ ∧
      SameRuns ⟨sampleFolder, []⟩ "." ⟨MergeTree.sampleTable, .builtin, [libGlob]⟩
        ⟨Inventory.prune sampleFolder [libGlob], []⟩ "." ⟨MergeTree.sampleTable, .builtin, []⟩ := by
  have ht := hasTree_here isTree_sampleFolder ⟨_, rfl⟩
  have hu := hasTree_here isTree_smallFolder ⟨_, rfl⟩
  have hpruned := hasTree_here
    (isTree_sampleFolder.eraseAll (Inventory.excludedPlaces sampleFolder [libGlob]))
    (Node.exists_eraseAll_folder _ _)
  have hfiles : (sampleFolder.files.filter fun file => (Category.ofPath? file.1).isSome &&
      !Inventory.isExcluded [libGlob] file.1) =
    smallFolder.files.filter fun file => (Category.ofPath? file.1).isSome &&
      !Inventory.isExcluded [] file.1 := by decide +kernel
  have hsame : ∀ names content, Inventory.Survives sampleFolder [libGlob] names content ↔
      Inventory.Survives smallFolder [] names content := by
    intro names content
    rw [sampleFolder, Inventory.survives_iff_mem isTree_sampleFolder, smallFolder,
      Inventory.survives_iff_mem isTree_smallFolder, ← sampleFolder, ← smallFolder, hfiles]
  have hbuild : SameBuildFile sampleFolder smallFolder := by
    intro bytes
    rw [show sampleFolder.at? [BuildFile.fileName] = smallFolder.at? [BuildFile.fileName] by cbv]
  obtain ⟨hsurvivors, hprune, -⟩ := run_noninterference MergeTree.sampleTable .builtin
  exact ⟨ht, hu, hsame, hbuild, hsurvivors _ _ _ _ _ _ _ _ ht hu hsame hbuild,
    hprune _ _ _ _ _ _ ht hpruned.node⟩

end Analysis

end Readiness
