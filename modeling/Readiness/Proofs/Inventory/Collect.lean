import Readiness.Proofs.Disk.Change

/-!
# The files that are analysed

Which files of a tree are analysed, told from their places, their names and their bytes.

* `Inventory.Survives` : a file of a known kind that no exclusion covers.
* `Inventory.mem_collect_iff`, `Inventory.pairwise_collect` : the files to analyse are those that
  survive, by path.
* `Inventory.collect_congr` : nothing else about a tree matters to them.
* `Inventory.survives_prune_iff` : excluding files is deleting them.
-/

namespace Readiness.Inventory

/-- Whether a file of a known kind stands at a place of the tree, and no exclusion covers it. -/
structure Survives (tree : Node) (exclusions : List Glob) (names : List String)
    (content : Option (List UInt8)) : Prop where
  at_place : tree.at? names = some (.file content)
  source : ∃ name ∈ names.getLast?, Category.IsSourceName name
  kept : isExcluded exclusions (Path.ofNames names) = false

variable {es fs : List (String × Node)} {exclusions : List Glob}

theorem source_iff {names : List String} (h : ∀ x ∈ names, IsName x) :
    (∃ name ∈ names.getLast?, Category.IsSourceName name) ↔
      names ≠ [] ∧ (Category.ofPath? (Path.ofNames names)).isSome := by
  by_cases hne : names = []
  · simp [hne]
  · rw [List.getLast?_eq_some_getLast hne, Category.isSome_ofPath?_iff hne h]
    simp [hne]

theorem classify?_eq_some {file : String × Option (List UInt8)} {f : SourceFile}
    (h : classify? file = some f) :
    f.path = file.1 ∧ Category.ofPath? file.1 = some f.category := by
  rw [classify?, Option.map_eq_some_iff] at h
  obtain ⟨kind, hkind, rfl⟩ := h
  exact ⟨rfl, hkind⟩

/-- **The files to analyse are those that survive.** -/
theorem mem_collect_iff (h : (Node.folder es).IsTree) {f : SourceFile} :
    f ∈ collect (.folder es) exclusions ↔ ∃ names content,
      Survives (.folder es) exclusions names content ∧
        classify? (Path.ofNames names, content) = some f := by
  simp only [collect, List.mem_mergeSort, List.mem_filter, List.mem_filterMap, Bool.not_eq_true']
  constructor
  · rintro ⟨⟨⟨path, content⟩, hfile, hclass⟩, hkept⟩
    obtain ⟨names, hat, rfl⟩ := (Node.mem_files_iff h).mp hfile
    obtain ⟨hpath, hkind⟩ := classify?_eq_some hclass
    rw [hpath] at hkept
    refine ⟨names, content, ⟨hat, ?_, hkept⟩, hclass⟩
    refine (source_iff (h.isName_of_at? hat)).mpr ⟨?_, by rw [hkind]; rfl⟩
    rintro rfl
    cases hat
  · rintro ⟨names, content, hsurvives, hclass⟩
    refine ⟨⟨_, (Node.mem_files_iff h).mpr ⟨names, hsurvives.at_place, rfl⟩, hclass⟩, ?_⟩
    rw [(classify?_eq_some hclass).1]
    exact hsurvives.kept

theorem map_path_filterMap_sublist (files : List (String × Option (List UInt8))) :
    ((files.filterMap classify?).map (·.path)).Sublist (files.map (·.1)) := by
  induction files with
  | nil => exact List.Sublist.slnil
  | cons file files ih =>
    rw [List.filterMap_cons]
    cases hclass : classify? file with
    | none => exact ih.cons _
    | some f =>
      rw [List.map_cons, List.map_cons, (classify?_eq_some hclass).1]
      exact ih.cons_cons _

theorem collect_perm (folder : Node) (exclusions : List Glob) :
    (collect folder exclusions).Perm
      ((folder.files.filterMap classify?).filter fun f => !isExcluded exclusions f.path) :=
  List.mergeSort_perm _ _

theorem sorted_collect (folder : Node) (exclusions : List Glob) :
    (collect folder exclusions).Pairwise fun f g => f.path ≤ g.path := by
  have hsorted : (collect folder exclusions).Pairwise fun f g =>
      decide (f.path ≤ g.path) = true := by
    refine List.pairwise_mergeSort (fun f g k hfg hgk => ?_) (fun f g => ?_) _
    · exact decide_eq_true (String.le_trans (of_decide_eq_true hfg) (of_decide_eq_true hgk))
    · simpa only [Bool.or_eq_true, decide_eq_true_eq] using String.le_total f.path g.path
  exact hsorted.imp of_decide_eq_true

/-- **The files to analyse stand in the order of their paths**, which all differ. -/
theorem pairwise_collect (h : (Node.folder es).IsTree) :
    (collect (.folder es) exclusions).Pairwise fun f g => f.path < g.path := by
  have hdistinct : (collect (.folder es) exclusions).Pairwise fun f g => f.path ≠ g.path := by
    refine List.pairwise_map.mp (((collect_perm _ _).map _).nodup_iff.mpr ?_)
    exact ((Node.nodup_files h).sublist (map_path_filterMap_sublist _)).sublist
      (List.filter_sublist.map SourceFile.path)
  refine ((sorted_collect _ _).and hdistinct).imp fun {f g} ⟨hle, hne⟩ => ?_
  rw [← String.not_le]
  exact fun hge => hne (String.le_antisymm hle hge)

theorem nodup_collect (h : (Node.folder es).IsTree) :
    (collect (.folder es) exclusions).Nodup := by
  refine (pairwise_collect h).imp ?_
  rintro f _ hlt rfl
  exact String.lt_irrefl _ hlt

/-- **What is analysed depends on the surviving files only.** -/
theorem collect_congr {exclusions' : List Glob} (h : (Node.folder es).IsTree)
    (h' : (Node.folder fs).IsTree)
    (hsame : ∀ names content, Survives (.folder es) exclusions names content ↔
      Survives (.folder fs) exclusions' names content) :
    collect (.folder es) exclusions = collect (.folder fs) exclusions' := by
  have hperm : (collect (.folder es) exclusions).Perm (collect (.folder fs) exclusions') := by
    rw [List.perm_ext_iff_of_nodup (nodup_collect h) (nodup_collect h')]
    intro f
    rw [mem_collect_iff h, mem_collect_iff h']
    simp only [hsame]
  exact hperm.eq_of_pairwise (fun f g _ _ hlt hgt => absurd hgt (String.lt_asymm hlt))
    (pairwise_collect h) (pairwise_collect h')

theorem collect_subperm {exclusions' : List Glob} (h : (Node.folder es).IsTree)
    (h' : (Node.folder fs).IsTree)
    (hmore : ∀ names content, Survives (.folder es) exclusions names content →
      Survives (.folder fs) exclusions' names content) :
    (collect (.folder es) exclusions).Subperm (collect (.folder fs) exclusions') := by
  refine List.subperm_of_subset (nodup_collect h) fun f hf => ?_
  obtain ⟨names, content, hsurvives, hclass⟩ := (mem_collect_iff h).mp hf
  exact (mem_collect_iff h').mpr ⟨names, content, hmore _ _ hsurvives, hclass⟩

theorem isExcluded_of_subset {exclusions' : List Glob} (h : exclusions' ⊆ exclusions)
    {path : String} (hkept : isExcluded exclusions path = false) :
    isExcluded exclusions' path = false := by
  rw [isExcluded, List.any_eq_false] at hkept ⊢
  exact fun g hg => hkept g (h hg)

theorem collect_subperm_of_subset (folder : Node) {exclusions' : List Glob}
    (h : exclusions' ⊆ exclusions) :
    (collect folder exclusions).Subperm (collect folder exclusions') := by
  have hkept : ∀ f : SourceFile,
      !isExcluded exclusions f.path → !isExcluded exclusions' f.path := by
    intro f
    simp only [Bool.not_eq_true']
    exact isExcluded_of_subset h
  refine ((collect_perm folder exclusions).subperm.trans ?_).trans
    (collect_perm folder exclusions').symm.subperm
  exact (List.monotone_filter_right _ hkept).subperm

/-! ## Exclusion as deletion -/

/-- The places of the files of known kinds that an exclusion covers. -/
def excludedPlaces (tree : Node) (exclusions : List Glob) : List (List String) :=
  ((tree.files.map (·.1)).filter fun path =>
    (Category.ofPath? path).isSome && isExcluded exclusions path).map Disk.segments

/-- The tree without the files of known kinds that an exclusion covers. -/
def prune (tree : Node) (exclusions : List Glob) : Node :=
  tree.eraseAll (excludedPlaces tree exclusions)

theorem segments_ofNames {names : List String} (hne : names ≠ []) (h : ∀ x ∈ names, IsName x) :
    Disk.segments (Path.ofNames names) = names := by
  rw [Disk.segments, Path.splitAt_ofNames hne h, List.map_map]
  simp

theorem mem_excludedPlaces_iff (h : (Node.folder es).IsTree) {names : List String} :
    names ∈ excludedPlaces (.folder es) exclusions ↔
      (∃ content, (Node.folder es).at? names = some (.file content)) ∧
        (∃ name ∈ names.getLast?, Category.IsSourceName name) ∧
        isExcluded exclusions (Path.ofNames names) = true := by
  simp only [excludedPlaces, List.mem_map, List.mem_filter, Bool.and_eq_true]
  constructor
  · rintro ⟨_, ⟨⟨⟨path, content⟩, hfile, rfl⟩, hkind, hexcluded⟩, rfl⟩
    obtain ⟨names, hat, rfl⟩ := (Node.mem_files_iff h).mp hfile
    have hnames := h.isName_of_at? hat
    have hne : names ≠ [] := by rintro rfl; cases hat
    rw [segments_ofNames hne hnames]
    exact ⟨⟨content, hat⟩, (source_iff hnames).mpr ⟨hne, hkind⟩, hexcluded⟩
  · rintro ⟨⟨content, hat⟩, hsource, hexcluded⟩
    have hnames := h.isName_of_at? hat
    obtain ⟨hne, hkind⟩ := (source_iff hnames).mp hsource
    exact ⟨_, ⟨⟨_, (Node.mem_files_iff h).mpr ⟨names, hat, rfl⟩, rfl⟩, hkind, hexcluded⟩,
      segments_ofNames hne hnames⟩

theorem at?_prune_eq_file_iff (h : (Node.folder es).IsTree) (names : List String)
    (content : Option (List UInt8)) :
    (prune (.folder es) exclusions).at? names = some (.file content) ↔
      (Node.folder es).at? names = some (.file content) ∧
        names ∉ excludedPlaces (.folder es) exclusions := by
  have hne : ∀ place ∈ excludedPlaces (.folder es) exclusions, place ≠ [] := by
    rintro place hplace rfl
    obtain ⟨⟨content, hat⟩, -⟩ := (mem_excludedPlaces_iff h).mp hplace
    cases hat
  rw [prune, Node.at?_eraseAll_eq_file_iff hne]
  refine and_congr_right fun hat => ⟨fun hall hmem => hall names hmem List.prefix_rfl, ?_⟩
  rintro hmem place hplace hpre
  obtain ⟨⟨content', hat'⟩, -⟩ := (mem_excludedPlaces_iff h).mp hplace
  exact hmem (Node.eq_of_prefix_of_at? hat' hat hpre ▸ hplace)

/-- **Exclusion is deletion**: the files that survive the exclusions are those that survive none in
the pruned tree. -/
theorem survives_prune_iff (h : (Node.folder es).IsTree) {names : List String}
    {content : Option (List UInt8)} :
    Survives (prune (.folder es) exclusions) [] names content ↔
      Survives (.folder es) exclusions names content := by
  constructor
  · rintro ⟨hat, hsource, -⟩
    rw [at?_prune_eq_file_iff h] at hat
    refine ⟨hat.1, hsource, Bool.eq_false_iff.mpr fun hexcluded => hat.2 ?_⟩
    exact (mem_excludedPlaces_iff h).mpr ⟨⟨content, hat.1⟩, hsource, hexcluded⟩
  · rintro ⟨hat, hsource, hkept⟩
    refine ⟨(at?_prune_eq_file_iff h names content).mpr ⟨hat, fun hmem => ?_⟩, hsource, rfl⟩
    rw [((mem_excludedPlaces_iff h).mp hmem).2.2] at hkept
    cases hkept

theorem survives_iff_mem (h : (Node.folder es).IsTree) {names : List String}
    {content : Option (List UInt8)} :
    Survives (.folder es) exclusions names content ↔
      names ≠ [] ∧ (∀ x ∈ names, IsName x) ∧
        (Path.ofNames names, content) ∈ (Node.folder es).files.filter fun file =>
          (Category.ofPath? file.1).isSome && !isExcluded exclusions file.1 := by
  rw [List.mem_filter, Bool.and_eq_true, Bool.not_eq_true', Node.mem_files_iff h]
  constructor
  · rintro ⟨hat, hsource, hkept⟩
    have hnames := h.isName_of_at? hat
    obtain ⟨hne, hkind⟩ := (source_iff hnames).mp hsource
    exact ⟨hne, hnames, ⟨names, hat, rfl⟩, hkind, hkept⟩
  · rintro ⟨hne, hnames, ⟨others, hat, heq⟩, hkind, hkept⟩
    have hne' : others ≠ [] := by rintro rfl; cases hat
    obtain rfl := Path.ofNames_injOn hne hne' hnames (h.isName_of_at? hat) heq
    exact ⟨hat, (source_iff hnames).mpr ⟨hne, hkind⟩, hkept⟩

end Readiness.Inventory
