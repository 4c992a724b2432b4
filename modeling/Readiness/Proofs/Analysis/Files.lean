import Readiness.Proofs.Analysis.Totals
import Readiness.Proofs.Inventory.Collect

/-!
# What the files contribute to a report

The parts of a report that come from single files, told from the list of files alone. The partial
results of the files are merged one after another, which comes to counting, adding up and putting
one behind the other.

* `Inventory.stats`, `ReservedPath.inFiles` : statistics and reserved paths of a list of files.
* `Analysis.foldl_stats`, `Analysis.flatten_paths` : merged partial results.
* `ReservedPath.cap_cap_append` : cutting off early does not matter.
* `Analysis.run_sums_files` : the report of a tree.
-/

namespace Readiness

/-- The number of lines of a file. One that cannot be read has none. -/
def SourceFile.lines (f : SourceFile) : Nat := (f.text.map lineCount).getD 0

/-- How many files of each kind there are, and how many lines all of them have. -/
def Inventory.stats (files : List SourceFile) : FileStats where
  c := files.countP (·.category = .c)
  cpp := files.countP (·.category = .cpp)
  header := files.countP (·.category = .header)
  lines := (files.map (·.lines)).sum

/-- The reserved paths in the files that can be read and are no headers, file by file. -/
def ReservedPath.inFiles (files : List SourceFile) : List PathUsage :=
  (Inventory.texts (files.filter (·.category.isSource))).flatMap fun s => scan s.file s.text

/-! ## Statistics -/

namespace FileStats

theorem zero_merge (s : FileStats) : zero.merge s = s := by simp [merge, zero]

theorem merge_assoc (s t u : FileStats) : (s.merge t).merge u = s.merge (t.merge u) := by
  simp [merge, Nat.add_assoc]

end FileStats

namespace Inventory

theorem stats_cons (f : SourceFile) (files : List SourceFile) :
    stats (f :: files) = (stats [f]).merge (stats files) := by
  have hcount : ∀ p : SourceFile → Bool,
      (f :: files).countP p = [f].countP p + files.countP p := fun p => by
    rw [← List.singleton_append, List.countP_append]
  simp only [stats, FileStats.merge, hcount]
  simp

theorem stats_kinds (files : List SourceFile) :
    (stats files).c + (stats files).cpp + (stats files).header = files.length := by
  induction files with
  | nil => rfl
  | cons f files ih =>
    have hone : (stats [f]).c + (stats [f]).cpp + (stats [f]).header = 1 := by
      cases h : f.category <;> simp [stats, h]
    rw [stats_cons, List.length_cons]
    simp only [FileStats.merge]
    omega

end Inventory

namespace Analysis

theorem scan_stats (table : RuleTable) (f : SourceFile) :
    (scan table f).stats = Inventory.stats [f] := by
  cases htext : f.text <;> cases hkind : f.category <;>
    simp [scan, htext, hkind, Inventory.stats, SourceFile.lines, FileStats.record, FileStats.zero]

/-- **Merging counts.** The invariant of the loop over the files: what has been merged so far with
the statistics of the files to come. -/
theorem foldl_stats (table : RuleTable) (files : List SourceFile) (s : FileStats) :
    (files.map (scan table)).foldl (fun s p => s.merge p.stats) s =
      s.merge (Inventory.stats files) := by
  induction files generalizing s with
  | nil => rfl
  | cons f files ih =>
    rw [List.map_cons, List.foldl_cons, ih, scan_stats, FileStats.merge_assoc,
      ← Inventory.stats_cons]

end Analysis

/-! ## Reserved paths -/

namespace ReservedPath

theorem inFiles_cons (f : SourceFile) (files : List SourceFile) :
    inFiles (f :: files) = inFiles [f] ++ inFiles files := by
  have hfilter : (f :: files).filter (·.category.isSource) =
      [f].filter (·.category.isSource) ++ files.filter (·.category.isSource) := by
    rw [← List.filter_append]
    rfl
  rw [inFiles, inFiles, inFiles, hfilter, Inventory.texts, List.filterMap_append,
    List.flatMap_append]
  rfl

theorem inFiles_append (files others : List SourceFile) :
    inFiles (files ++ others) = inFiles files ++ inFiles others := by
  induction files with
  | nil => rfl
  | cons f files ih =>
    rw [List.cons_append, inFiles_cons, ih, inFiles_cons f files, List.append_assoc]

theorem exists_of_mem_inFiles {files : List SourceFile} {u : PathUsage} (h : u ∈ inFiles files) :
    ∃ f ∈ files, f.path = u.file ∧ f.category ≠ .header ∧
      ∃ text, f.text = some text ∧ u ∈ scan f.path text := by
  obtain ⟨s, hs, hu⟩ := List.mem_flatMap.mp h
  obtain ⟨f, hf, hmap⟩ := List.mem_filterMap.mp hs
  obtain ⟨text, htext, rfl⟩ := Option.map_eq_some_iff.mp hmap
  obtain ⟨hf, hkind⟩ := List.mem_filter.mp hf
  obtain ⟨piece, -, hpiece⟩ := List.mem_map.mp hu
  refine ⟨f, hf, by rw [← hpiece], fun hheader => ?_, text, htext, hu⟩
  rw [hheader] at hkind
  cases hkind

theorem pairwise_inFiles {files : List SourceFile}
    (h : files.Pairwise fun f g => f.path ≤ g.path) :
    (inFiles files).Pairwise fun u v => u.file ≤ v.file := by
  induction files with
  | nil => exact List.Pairwise.nil
  | cons f files ih =>
    obtain ⟨hf, hfiles⟩ := List.pairwise_cons.mp h
    have hfile : ∀ u ∈ inFiles [f], u.file = f.path := by
      intro u hu
      obtain ⟨g, hg, hpath, -⟩ := exists_of_mem_inFiles hu
      rw [← hpath, List.mem_singleton.mp hg]
    rw [inFiles_cons, List.pairwise_append]
    refine ⟨List.pairwise_of_forall_mem_list fun u hu v hv => ?_, ih hfiles, fun u hu v hv => ?_⟩
    · rw [hfile u hu, hfile v hv]
    · obtain ⟨g, hg, hpath, -⟩ := exists_of_mem_inFiles hv
      rw [hfile u hu, ← hpath]
      exact hf g hg

/-- **Cutting off early does not matter.** -/
theorem cap_cap_append (xs ys : List (List PathUsage)) :
    cap (cap xs :: ys) = cap (xs ++ ys) := by
  simp only [cap, List.flatten_cons, List.flatten_append, List.take_append, List.take_take,
    Nat.min_self, List.length_take]
  congr 2
  omega

end ReservedPath

namespace Analysis

theorem scan_paths (table : RuleTable) (f : SourceFile) :
    (scan table f).paths = ReservedPath.inFiles [f] := by
  cases htext : f.text <;> cases hkind : f.category <;>
    simp [scan, htext, hkind, ReservedPath.inFiles, Inventory.texts, Category.isSource]

theorem flatten_paths (table : RuleTable) (files : List SourceFile) :
    ((files.map (scan table)).map (·.paths)).flatten = ReservedPath.inFiles files := by
  induction files with
  | nil => rfl
  | cons f files ih =>
    rw [List.map_cons, List.map_cons, List.flatten_cons, ih, scan_paths,
      ← ReservedPath.inFiles_cons]

/-! ## Reports -/

section
variable (table : RuleTable) (projectPath : String) (files : List SourceFile)
  (dependencies : List Dependency)

theorem assemble_fileStats :
    (assemble table projectPath files dependencies).fileStats = Inventory.stats files := by
  show (files.map (scan table)).foldl (fun s p => s.merge p.stats) FileStats.zero = _
  rw [foldl_stats, FileStats.zero_merge]

theorem assemble_pathUsages :
    (assemble table projectPath files dependencies).pathUsages =
      (ReservedPath.inFiles files).take 20 := by
  rw [← flatten_paths table]
  rfl

end

/-- **What the files of a tree contribute to its report.** The files are those of known kinds that
no exclusion covers, each with its leniently decoded text if it can be read, in the order of the
bytes of their paths.

* The statistics count the files of each kind and add up the lines of all, where a file that cannot
  be read has no lines.
* The findings are the listing of the texts that can be read.
* The reserved paths are the first twenty of those in files that are no headers, file by file. It
  does not matter whether those of the first files are cut off before the others follow. -/
theorem run_sums_files (d : Disk) (root : String) (o : Options) (names : List String)
    (hroot : findRoot d root = .ok names) :
    let files := Inventory.collect (folderAt d names) o.exclusions
    files.Perm (((folderAt d names).files.filterMap Inventory.classify?).filter fun f =>
        !Inventory.isExcluded o.exclusions f.path) ∧
      files.Pairwise (fun f g => Utf8.byteLE f.path g.path) ∧
      ∃ r, run d root o = .ok r ∧
        r.fileStats = Inventory.stats files ∧
        r.fileStats.c + r.fileStats.cpp + r.fileStats.header = files.length ∧
        IsListing o.rules (Inventory.texts files) r.apiUsages ∧
        r.pathUsages = (ReservedPath.inFiles files).take 20 ∧
        (∀ u ∈ r.pathUsages, ∃ f ∈ files, f.path = u.file ∧ f.category ≠ .header ∧
          ∃ text, f.text = some text ∧ u ∈ ReservedPath.scan f.path text) ∧
        r.pathUsages.Pairwise (fun u v => Utf8.byteLE u.file v.file) ∧
        (∀ n, r.pathUsages = ((ReservedPath.inFiles (files.take n)).take 20 ++
          ReservedPath.inFiles (files.drop n)).take 20) ∧
        ∀ xs ys, ReservedPath.cap (ReservedPath.cap xs :: ys) = ReservedPath.cap (xs ++ ys) := by
  intro files
  have hsorted : files.Pairwise fun f g => f.path ≤ g.path :=
    Inventory.sorted_collect (folderAt d names) o.exclusions
  let deps := dependencies o.allowlist (folderAt d names)
  have hstats := assemble_fileStats o.rules (Disk.canonical names) files deps
  have hpaths := assemble_pathUsages o.rules (Disk.canonical names) files deps
  refine ⟨Inventory.collect_perm _ _, hsorted.imp Utf8.byteLE_iff.mpr, _, run_eq hroot o, hstats,
    ?_, assemble_isListing o.rules (Disk.canonical names) files deps, hpaths, ?_, ?_, ?_,
    ReservedPath.cap_cap_append⟩
  · rw [ofFolder, hstats]
    exact Inventory.stats_kinds files
  · intro u hu
    rw [ofFolder, hpaths] at hu
    exact ReservedPath.exists_of_mem_inFiles (List.mem_of_mem_take hu)
  · rw [ofFolder, hpaths]
    exact ((ReservedPath.pairwise_inFiles hsorted).sublist (List.take_sublist _ _)).imp
      Utf8.byteLE_iff.mpr
  · intro n
    have hcap := ReservedPath.cap_cap_append [ReservedPath.inFiles (files.take n)]
      [ReservedPath.inFiles (files.drop n)]
    simp only [ReservedPath.cap, ReservedPath.maxKept, List.flatten_cons, List.flatten_nil,
      List.append_nil, List.singleton_append, ← ReservedPath.inFiles_append,
      List.take_append_drop] at hcap
    rw [ofFolder, hpaths, ← hcap]

/-- A folder with a path in a header, a file that cannot be read, and a file whose path comes before
that of the folder next to it. -/
def mixedFolder : Node :=
  .folder [("a", .folder [("b.c", .file (some (Utf8.encode "x = '/proc/1';\n".toList)))]),
    ("a-b.c", .file (some (Utf8.encode "y;\nz = \"/sys/2\";".toList))),
    ("a.h", .file (some (Utf8.encode "\"/proc/3\"".toList))),
    ("gone.cpp", .file none)]

theorem collect_mixedFolder : Inventory.collect mixedFolder [] =
    [⟨"a-b.c", .c, some "y;\nz = \"/sys/2\";".toList⟩, ⟨"a.h", .header, some "\"/proc/3\"".toList⟩,
      ⟨"a/b.c", .c, some "x = '/proc/1';\n".toList⟩, ⟨"gone.cpp", .cpp, none⟩] := by
  cbv

theorem run_sums_files_sample :
    findRoot ⟨mixedFolder, []⟩ "." = .ok [] ∧
      ∃ r, run ⟨mixedFolder, []⟩ "." ⟨MergeTree.sampleTable, .builtin, []⟩ = .ok r ∧
        r.fileStats = ⟨2, 1, 1, 4⟩ ∧
        r.pathUsages = [⟨"a-b.c", "/sys/2"⟩, ⟨"a/b.c", "/proc/1"⟩] := by
  have hroot : findRoot ⟨mixedFolder, []⟩ "." = .ok [] := by cbv
  obtain ⟨-, -, r, hr, hstats, -, -, hpaths, -⟩ := run_sums_files ⟨mixedFolder, []⟩ "."
    ⟨MergeTree.sampleTable, .builtin, []⟩ [] hroot
  have hfolder : folderAt ⟨mixedFolder, []⟩ [] = mixedFolder := rfl
  rw [hfolder, collect_mixedFolder] at hstats hpaths
  refine ⟨hroot, r, hr, ?_, ?_⟩
  · rw [hstats]
    decide +kernel
  · rw [hpaths]
    decide +kernel

end Analysis

end Readiness
