import Mathlib
import Readiness.Proofs.Text.ByteOrder
import Readiness.Usage

/-!
# Tallies

What a usage says of the texts that were scanned for it, whatever the order of the scans and of the
merges: for each rule the number of matches in all texts and the files that have any.

* `ScoredRule.total`, `ScoredRule.matchedFiles` : the two tallies of a rule, taken from the texts.
* `Usage.Tallies` : a usage holds the tallies of the texts; kept by `Usage.merge`.
* `MergeTree.usage_tallies` : every way to scan and merge gives the tallies of the scanned texts.
-/

namespace Readiness

/-- A text that was scanned, with the file that it stands for. -/
structure ScannedText where
  file : String
  text : List Char

namespace ScoredRule

/-- The number of matches in all the texts. -/
def total (r : ScoredRule) (scans : List ScannedText) : Nat :=
  (scans.map fun s => r.countIn s.text).sum

/-- The distinct files of the texts with a match, in the order of their bytes. -/
def matchedFiles (r : ScoredRule) (scans : List ScannedText) : List String :=
  ((scans.filter fun s => 0 < r.countIn s.text).map (·.file)).dedup.mergeSort Utf8.byteLE

variable (r : ScoredRule)

@[simp] theorem total_nil : r.total [] = 0 := rfl

@[simp] theorem total_cons (s : ScannedText) (scans : List ScannedText) :
    r.total (s :: scans) = r.countIn s.text + r.total scans := by
  simp [total]

@[simp] theorem total_append (a b : List ScannedText) :
    r.total (a ++ b) = r.total a + r.total b := by
  simp [total]

theorem total_perm {a b : List ScannedText} (h : a.Perm b) : r.total a = r.total b :=
  (h.map _).sum_eq

theorem total_eq_zero_iff {scans : List ScannedText} :
    r.total scans = 0 ↔ ∀ s ∈ scans, r.countIn s.text = 0 := by
  simp [total, List.sum_eq_zero_iff]

theorem mem_matchedFiles {scans : List ScannedText} {file : String} :
    file ∈ r.matchedFiles scans ↔ ∃ s ∈ scans, s.file = file ∧ 0 < r.countIn s.text := by
  simp only [matchedFiles, List.mem_mergeSort, List.mem_dedup, List.mem_map, List.mem_filter,
    decide_eq_true_eq]
  constructor
  · rintro ⟨s, ⟨hs, hc⟩, rfl⟩
    exact ⟨s, hs, rfl, hc⟩
  · rintro ⟨s, hs, rfl, hc⟩
    exact ⟨s, ⟨hs, hc⟩, rfl⟩

theorem pairwise_matchedFiles (scans : List ScannedText) :
    (r.matchedFiles scans).Pairwise (· < ·) := by
  have hle : (r.matchedFiles scans).Pairwise fun a b => Utf8.byteLE a b :=
    List.pairwise_mergeSort Utf8.byteLE_trans Utf8.byteLE_total _
  have hne : (r.matchedFiles scans).Nodup :=
    (List.mergeSort_perm _ _).nodup_iff.mpr (List.nodup_dedup _)
  refine (hle.and hne).imp ?_
  rintro a b ⟨hab, hne⟩
  exact lt_of_le_of_ne (Utf8.byteLE_iff.mp hab) hne

theorem eq_of_mem_iff {fs gs : List String} (hf : fs.Pairwise (· < ·)) (hg : gs.Pairwise (· < ·))
    (h : ∀ file, file ∈ fs ↔ file ∈ gs) : fs = gs := by
  have hperm : fs.Perm gs :=
    (List.perm_ext_iff_of_nodup (hf.imp ne_of_lt) (hg.imp ne_of_lt)).mpr h
  exact hperm.eq_of_pairwise (fun a b _ _ hab hba => absurd hab (lt_asymm hba)) hf hg

theorem matchedFiles_perm {a b : List ScannedText} (h : a.Perm b) :
    r.matchedFiles a = r.matchedFiles b := by
  refine eq_of_mem_iff (r.pairwise_matchedFiles a) (r.pairwise_matchedFiles b) fun file => ?_
  simp only [mem_matchedFiles, h.mem_iff]

theorem matchedFiles_ne_nil {scans : List ScannedText} (h : 0 < r.total scans) :
    r.matchedFiles scans ≠ [] := by
  intro hnil
  have hzero : r.total scans = 0 := r.total_eq_zero_iff.mpr fun s hs => by
    by_contra hc
    have : s.file ∈ r.matchedFiles scans := r.mem_matchedFiles.mpr ⟨s, hs, rfl, by omega⟩
    rw [hnil] at this
    exact List.not_mem_nil this
  omega

theorem length_matchedFiles_le (scans : List ScannedText) :
    (r.matchedFiles scans).length ≤ r.total scans := by
  rw [matchedFiles, List.length_mergeSort]
  refine (List.dedup_sublist _).length_le.trans ?_
  rw [List.length_map]
  induction scans with
  | nil => simp
  | cons s scans ih =>
    rw [List.filter_cons, total_cons]
    split
    · next h =>
      rw [decide_eq_true_eq] at h
      rw [List.length_cons]
      omega
    · omega

end ScoredRule

/-! ## The tallies of one rule -/

namespace Hits

theorem mem_insertFile {file x : String} {fs : List String} :
    x ∈ insertFile file fs ↔ x = file ∨ x ∈ fs := by
  induction fs with
  | nil => simp [insertFile]
  | cons f fs ih =>
    rw [insertFile]
    split_ifs with hlt hgt
    · simp
    · rw [List.mem_cons, ih, List.mem_cons]
      tauto
    · have : f = file := le_antisymm (not_lt.mp hlt) (not_lt.mp hgt)
      simp [this]

theorem pairwise_insertFile (file : String) {fs : List String} (h : fs.Pairwise (· < ·)) :
    (insertFile file fs).Pairwise (· < ·) := by
  induction fs with
  | nil => simp [insertFile]
  | cons f fs ih =>
    obtain ⟨hf, hfs⟩ := List.pairwise_cons.mp h
    rw [insertFile]
    split_ifs with hlt hgt
    · refine List.pairwise_cons.mpr ⟨fun x hx => ?_, h⟩
      rcases List.mem_cons.mp hx with rfl | hx
      · exact hlt
      · exact hlt.trans (hf x hx)
    · refine List.pairwise_cons.mpr ⟨fun x hx => ?_, ih hfs⟩
      rcases mem_insertFile.mp hx with rfl | hx
      · exact hgt
      · exact hf x hx
    · exact h

theorem mem_foldl_insertFile {x : String} (gs fs : List String) :
    x ∈ gs.foldl (fun fs f => insertFile f fs) fs ↔ x ∈ fs ∨ x ∈ gs := by
  induction gs generalizing fs with
  | nil => simp
  | cons g gs ih =>
    rw [List.foldl_cons, ih, mem_insertFile, List.mem_cons]
    tauto

theorem pairwise_foldl_insertFile (gs : List String) {fs : List String}
    (h : fs.Pairwise (· < ·)) : (gs.foldl (fun fs f => insertFile f fs) fs).Pairwise (· < ·) := by
  induction gs generalizing fs with
  | nil => exact h
  | cons g gs ih => exact ih (pairwise_insertFile g h)

/-- The hits are the tallies of the texts for the rule. -/
structure Tallies (r : ScoredRule) (scans : List ScannedText) (h : Hits) : Prop where
  count_eq : h.count = r.total scans
  sorted : h.files.Pairwise (· < ·)
  mem_files : ∀ file, file ∈ h.files ↔ ∃ s ∈ scans, s.file = file ∧ 0 < r.countIn s.text

namespace Tallies
variable {r : ScoredRule} {a b : List ScannedText} {h k : Hits}

theorem inFile (s : ScannedText) : Tallies r [s] (inFile s.file (r.countIn s.text)) := by
  unfold Hits.inFile
  split_ifs with hzero
  · exact ⟨by simp [Hits.none, hzero], List.Pairwise.nil, fun file => by simp [Hits.none, hzero]⟩
  · refine ⟨by simp, List.pairwise_singleton _ _, fun file => ?_⟩
    simp only [List.mem_singleton, exists_eq_left]
    exact ⟨fun h => ⟨h.symm, by omega⟩, fun h => h.1.symm⟩

/-- **Merging keeps tallies.** The tallies of two collections give those of both together. -/
theorem merge (ha : Tallies r a h) (hb : Tallies r b k) : Tallies r (a ++ b) (h.merge k) where
  count_eq := by rw [ScoredRule.total_append, ← ha.count_eq, ← hb.count_eq]; rfl
  sorted := pairwise_foldl_insertFile _ ha.sorted
  mem_files file := by
    simp only [Hits.merge, mem_foldl_insertFile, ha.mem_files, hb.mem_files, List.mem_append,
      or_and_right, exists_or]

theorem append_left (ha : r.total a = 0) (hb : Tallies r b k) : Tallies r (a ++ b) k where
  count_eq := by rw [ScoredRule.total_append, ha, zero_add, hb.count_eq]
  sorted := hb.sorted
  mem_files file := by
    rw [hb.mem_files]
    refine ⟨fun ⟨s, hs, h⟩ => ⟨s, List.mem_append_right _ hs, h⟩, fun ⟨s, hs, hfile, hc⟩ => ?_⟩
    rcases List.mem_append.mp hs with hs | hs
    · have := r.total_eq_zero_iff.mp ha s hs
      omega
    · exact ⟨s, hs, hfile, hc⟩

theorem perm (hp : a.Perm b) (ha : Tallies r a h) : Tallies r b h where
  count_eq := by rw [ha.count_eq, r.total_perm hp]
  sorted := ha.sorted
  mem_files file := by simp only [ha.mem_files, hp.mem_iff]

theorem append_right (ha : Tallies r a h) (hb : r.total b = 0) : Tallies r (a ++ b) h :=
  (ha.append_left hb).perm List.perm_append_comm

theorem files_eq (ha : Tallies r a h) : h.files = r.matchedFiles a :=
  ScoredRule.eq_of_mem_iff ha.sorted (r.pairwise_matchedFiles a) fun file => by
    rw [ha.mem_files, r.mem_matchedFiles]

end Tallies

end Hits

/-! ## The tallies of a table -/

namespace Usage

/-- The hits are the tallies of the texts for the rules in the same places. Rules without hits have
no match. -/
def TalliesFor (scans : List ScannedText) : List ScoredRule → List Hits → Prop
  | [], _ => True
  | r :: rs, [] => r.total scans = 0 ∧ TalliesFor scans rs []
  | r :: rs, h :: hs => Hits.Tallies r scans h ∧ TalliesFor scans rs hs

@[simp] theorem mergeHits_nil_left (hs : List Hits) : mergeHits [] hs = hs := by rw [mergeHits]

@[simp] theorem mergeHits_nil_right (hs : List Hits) : mergeHits hs [] = hs := by
  cases hs <;> simp [mergeHits]

theorem TalliesFor.merge {a b : List ScannedText} {rs : List ScoredRule} {hs ks : List Hits}
    (ha : TalliesFor a rs hs) (hb : TalliesFor b rs ks) :
    TalliesFor (a ++ b) rs (mergeHits hs ks) := by
  induction rs generalizing hs ks with
  | nil => trivial
  | cons r rs ih =>
    cases hs with
    | nil =>
      rw [mergeHits_nil_left]
      cases ks with
      | nil => exact ⟨by rw [ScoredRule.total_append, ha.1, hb.1], ih ha.2 hb.2⟩
      | cons k ks => exact ⟨hb.1.append_left ha.1, mergeHits_nil_left ks ▸ ih ha.2 hb.2⟩
    | cons h hs =>
      cases ks with
      | nil =>
        rw [mergeHits_nil_right]
        exact ⟨ha.1.append_right hb.1, mergeHits_nil_right hs ▸ ih ha.2 hb.2⟩
      | cons k ks => exact ⟨ha.1.merge hb.1, ih ha.2 hb.2⟩

/-- The usage holds the tallies of the texts. -/
def Tallies (table : RuleTable) (scans : List ScannedText) (u : Usage) : Prop :=
  TalliesFor scans table.scored u.hits

variable {table : RuleTable}

theorem tallies_zero : Tallies table [] zero := by
  unfold Tallies zero
  induction table.scored with
  | nil => trivial
  | cons r rs ih => exact ⟨r.total_nil, ih⟩

theorem tallies_scan (s : ScannedText) : Tallies table [s] (scan table s.file s.text) := by
  unfold Tallies scan
  induction table.scored with
  | nil => trivial
  | cons r rs ih => exact ⟨Hits.Tallies.inFile s, ih⟩

/-- **Merging keeps tallies**, for all rules of the table. -/
theorem Tallies.merge {a b : List ScannedText} {u v : Usage} (hu : Tallies table a u)
    (hv : Tallies table b v) : Tallies table (a ++ b) (u.merge v) :=
  TalliesFor.merge hu hv

end Usage

/-! ## Ways to scan and merge -/

/-- A way to scan texts one by one and to merge the results, with empty results anywhere. -/
inductive MergeTree where
  | zero
  | scan (s : ScannedText)
  | merge (left right : MergeTree)

namespace MergeTree

/-- The texts that are scanned, from left to right. -/
def scans : MergeTree → List ScannedText
  | .zero => []
  | .scan s => [s]
  | .merge l r => l.scans ++ r.scans

/-- The result of scanning and merging in this way. -/
def usage (table : RuleTable) : MergeTree → Usage
  | .zero => .zero
  | .scan s => .scan table s.file s.text
  | .merge l r => (l.usage table).merge (r.usage table)

/-- **Every way to scan and merge gives the tallies of the scanned texts.** -/
theorem usage_tallies (table : RuleTable) (t : MergeTree) :
    Usage.Tallies table t.scans (t.usage table) := by
  induction t with
  | zero => exact Usage.tallies_zero
  | scan s => exact Usage.tallies_scan s
  | merge l r ihl ihr => exact ihl.merge ihr

end MergeTree

end Readiness
