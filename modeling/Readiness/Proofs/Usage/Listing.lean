import Readiness.Proofs.Usage.Tally
import Readiness.Report.Basic

/-!
# The list of findings

What the findings of a usage are, told from the scanned texts alone: a finding for each scored rule
that matches at all, in an order in which no two of them are alike.

* `IsListing` : the findings that the texts call for, in their order.
* `IsListing.unique` : there is one such list.
* `Usage.Tallies.isListing` : the findings of a usage that holds the tallies are that list.
-/

namespace Readiness

/-- The finding of a rule that matches in the texts. -/
def ScoredRule.finding (r : ScoredRule) (scans : List ScannedText) : ApiFinding where
  name := r.rule.pattern
  tier := r.rule.tier
  count := r.total scans
  files := (r.matchedFiles scans).take 10
  guidance := r.rule.guidance

theorem ScoredRule.finding_perm (r : ScoredRule) {a b : List ScannedText} (h : a.Perm b) :
    r.finding a = r.finding b := by
  rw [finding, finding, r.total_perm h, r.matchedFiles_perm h]

/-- Whether the finding of one rule, given with its place in the table, comes before that of
another: blocking rules come first, then those with more matches, then those of earlier places. -/
def Precedes (scans : List ScannedText) (p q : ScoredRule × Nat) : Prop :=
  (p.1.rule.tier = .blocking ∧ q.1.rule.tier ≠ .blocking) ∨
    ((p.1.rule.tier = .blocking ↔ q.1.rule.tier = .blocking) ∧
      (q.1.total scans < p.1.total scans ∨ q.1.total scans = p.1.total scans ∧ p.2 < q.2))

theorem Precedes.asymm {scans : List ScannedText} {p q : ScoredRule × Nat}
    (h : Precedes scans p q) : ¬ Precedes scans q p := by
  unfold Precedes at *
  rintro (⟨hq, hp⟩ | ⟨hiff, hlt⟩)
  · rcases h with h | h <;> tauto
  · rcases h with ⟨hp, hq⟩ | ⟨-, h⟩
    · exact hq (hiff.mpr hp)
    · omega

/-- The findings that the texts call for: one for each rule that matches, in the order above. -/
def IsListing (table : RuleTable) (scans : List ScannedText) (fs : List ApiFinding) : Prop :=
  ∃ places : List (ScoredRule × Nat),
    (∀ p, p ∈ places ↔ p ∈ table.scored.zipIdx ∧ 0 < p.1.total scans) ∧
      places.Pairwise (Precedes scans) ∧ fs = places.map fun p => p.1.finding scans

/-- The rules of a table that match in the texts, with their places. -/
def RuleTable.matching (table : RuleTable) (scans : List ScannedText) : List (ScoredRule × Nat) :=
  table.scored.zipIdx.filter fun p => 0 < p.1.total scans

namespace RuleTable
variable (table : RuleTable) (scans : List ScannedText)

theorem mem_matching {p : ScoredRule × Nat} :
    p ∈ table.matching scans ↔ p ∈ table.scored.zipIdx ∧ 0 < p.1.total scans := by
  simp [matching]

theorem pairwise_matching : (table.matching scans).Pairwise fun p q => p.2 < q.2 := by
  refine (List.pairwise_map.mp ?_).sublist List.filter_sublist
  rw [List.zipIdx_map_snd]
  exact List.pairwise_lt_range'

theorem map_matching : (table.matching scans).map (fun p => p.1.finding scans) =
    (table.scored.filter fun r => 0 < r.total scans).map (·.finding scans) := by
  conv_rhs => rw [← List.zipIdx_map_fst 0 table.scored, List.filter_map, List.map_map]
  rfl

end RuleTable

namespace IsListing
variable {table : RuleTable} {scans : List ScannedText} {fs gs : List ApiFinding}

/-- **There is one list of findings.** The places and their order leave no choice. -/
theorem unique (hf : IsListing table scans fs) (hg : IsListing table scans gs) : fs = gs := by
  obtain ⟨ps, hps, hsorted, rfl⟩ := hf
  obtain ⟨qs, hqs, hsorted', rfl⟩ := hg
  have hne : ∀ {p q : ScoredRule × Nat}, Precedes scans p q → p ≠ q := by
    rintro p q h rfl
    exact h.asymm h
  have hperm : ps.Perm qs :=
    (List.perm_ext_iff_of_nodup (hsorted.imp hne) (hsorted'.imp hne)).mpr fun p => by
      rw [hps, hqs]
  rw [hperm.eq_of_pairwise (fun p q _ _ h h' => absurd h' h.asymm) hsorted hsorted']

theorem perm {other : List ScannedText} (hp : scans.Perm other) (h : IsListing table scans fs) :
    IsListing table other fs := by
  obtain ⟨ps, hps, hsorted, rfl⟩ := h
  refine ⟨ps, fun p => by rw [hps, p.1.total_perm hp], hsorted.imp fun {p q} h => ?_, ?_⟩
  · rwa [Precedes, p.1.total_perm hp, q.1.total_perm hp] at h
  · exact List.map_congr_left fun p _ => p.1.finding_perm hp

theorem perm_findings (h : IsListing table scans fs) :
    fs.Perm ((table.scored.filter fun r => 0 < r.total scans).map (·.finding scans)) := by
  obtain ⟨ps, hps, hsorted, rfl⟩ := h
  rw [← table.map_matching]
  refine ((List.perm_ext_iff_of_nodup (hsorted.imp ?_) ?_).mpr fun p => ?_).map _
  · rintro p q hpq rfl
    exact hpq.asymm hpq
  · exact (table.pairwise_matching scans).imp fun hlt heq => hlt.ne (congrArg Prod.snd heq)
  · rw [hps, table.mem_matching]

theorem exists_rule (h : IsListing table scans fs) {f : ApiFinding} (hf : f ∈ fs) :
    ∃ r ∈ table.scored, 0 < r.total scans ∧ f = r.finding scans := by
  obtain ⟨r, hr, rfl⟩ := List.mem_map.mp (h.perm_findings.mem_iff.mp hf)
  obtain ⟨hmem, hpos⟩ := List.mem_filter.mp hr
  exact ⟨r, hmem, of_decide_eq_true hpos, rfl⟩

theorem finding_mem (h : IsListing table scans fs) {r : ScoredRule} (hr : r ∈ table.scored)
    (hpos : 0 < r.total scans) : r.finding scans ∈ fs :=
  h.perm_findings.mem_iff.mpr
    (List.mem_map_of_mem (List.mem_filter.mpr ⟨hr, decide_eq_true hpos⟩))

theorem length_files (h : IsListing table scans fs) {f : ApiFinding} (hf : f ∈ fs) :
    1 ≤ f.files.length ∧ f.files.length ≤ min 10 f.count := by
  obtain ⟨r, -, hpos, rfl⟩ := h.exists_rule hf
  have hne := List.length_pos_of_ne_nil (r.matchedFiles_ne_nil hpos)
  have hle := r.length_matchedFiles_le scans
  simp only [ScoredRule.finding, List.length_take]
  omega

theorem filter_append_filter (h : IsListing table scans fs) :
    fs.filter (·.tier = .blocking) ++ fs.filter (·.tier = .needsRework) = fs := by
  have hsafe : ∀ f ∈ fs, f.tier ≠ .safe := by
    intro f hf
    obtain ⟨r, -, -, rfl⟩ := h.exists_rule hf
    exact r.tier_ne_safe
  have hsorted : fs.Pairwise fun f g => g.tier = .blocking → f.tier = .blocking := by
    obtain ⟨ps, -, hsorted, rfl⟩ := h
    refine List.pairwise_map.mpr (hsorted.imp fun {p q} hpq hq => ?_)
    rcases hpq with ⟨-, hne⟩ | ⟨hiff, -⟩
    · exact absurd hq hne
    · exact hiff.mpr hq
  clear h
  induction fs with
  | nil => rfl
  | cons f fs ih =>
    obtain ⟨hf, hfs⟩ := List.pairwise_cons.mp hsorted
    have ih := ih (fun g hg => hsafe g (List.mem_cons_of_mem _ hg)) hfs
    cases htier : f.tier with
    | blocking => simp [htier, ih]
    | needsRework =>
      have hnone : fs.filter (·.tier = .blocking) = [] :=
        List.filter_eq_nil_iff.mpr fun g hg hb => by
          have := hf g hg (of_decide_eq_true hb)
          rw [htier] at this
          exact Tier.noConfusion this
      rw [hnone, List.nil_append] at ih
      simp [htier, hnone, ih]
    | safe => exact absurd htier (hsafe f List.mem_cons_self)

end IsListing

/-! ## Sorting -/

theorem pairwise_mergeSort_of_pairwise {α : Type} {le : α → α → Bool} {lt : α → α → Prop}
    (trans : ∀ a b c, le a b → le b c → le a c) (total : ∀ a b, le a b || le b a) {l : List α}
    (hl : l.Pairwise lt) : (l.mergeSort le).Pairwise fun a b => le a b ∧ (le b a → lt a b) := by
  rw [← List.mergeSort_zipIdx, List.pairwise_map]
  have hsorted := List.pairwise_mergeSort (List.zipIdxLE_trans trans) (List.zipIdxLE_total total)
    l.zipIdx
  have hperm := List.mergeSort_perm l.zipIdx (List.zipIdxLE le)
  have hidx : (l.zipIdx.mergeSort (List.zipIdxLE le)).Pairwise fun a b => a.2 ≠ b.2 := by
    refine (hperm.pairwise_iff fun h => Ne.symm h).mpr (List.pairwise_map.mp ?_)
    rw [List.zipIdx_map_snd]
    exact List.nodup_range'
  refine (hsorted.and hidx).imp_of_mem ?_
  rintro ⟨a, i⟩ ⟨b, j⟩ ha hb ⟨hle, hne⟩
  simp only [List.zipIdxLE] at hle
  split_ifs at hle with hab hba
  · refine ⟨hab, fun _ => ?_⟩
    rw [decide_eq_true_eq] at hle
    obtain ⟨hi, ha⟩ := List.mem_zipIdx' (hperm.mem_iff.mp ha)
    obtain ⟨hj, hb⟩ := List.mem_zipIdx' (hperm.mem_iff.mp hb)
    rw [ha, hb]
    exact List.pairwise_iff_getElem.mp hl i j hi hj (lt_of_le_of_ne hle hne)
  · exact ⟨hab, fun h => absurd h hba⟩

namespace Usage

theorem before_iff {f g : ApiFinding} : before f g ↔
    (f.tier = .blocking ∧ g.tier ≠ .blocking) ∨
      ((f.tier = .blocking ↔ g.tier = .blocking) ∧ g.count ≤ f.count) := by
  unfold before
  split_ifs with hf <;> by_cases hg : g.tier = .blocking <;> simp [hf, hg]

theorem before_trans (f g h : ApiFinding) (hfg : before f g) (hgh : before g h) : before f h := by
  rw [before_iff] at *
  rcases hfg with hfg | ⟨hfg, hle⟩ <;> rcases hgh with hgh | ⟨hgh, hle'⟩
  · exact absurd hgh.1 hfg.2
  · exact .inl ⟨hfg.1, fun h => hfg.2 (hgh.mpr h)⟩
  · exact .inl ⟨hfg.mpr hgh.1, hgh.2⟩
  · exact .inr ⟨hfg.trans hgh, hle'.trans hle⟩

theorem before_total (f g : ApiFinding) : before f g || before g f := by
  rw [Bool.or_eq_true, before_iff, before_iff]
  rcases le_total f.count g.count with h | h <;> tauto

/-! ## The findings of a usage -/

variable {table : RuleTable} {scans : List ScannedText} {u : Usage}

theorem TalliesFor.filterMap_finding {rs : List ScoredRule} {hs : List Hits}
    (h : TalliesFor scans rs hs) :
    (rs.zip hs).filterMap (fun p => finding? p.1 p.2) =
      (rs.filter fun r => 0 < r.total scans).map (·.finding scans) := by
  induction rs generalizing hs with
  | nil => simp
  | cons r rs ih =>
    cases hs with
    | nil => simpa [h.1] using ih h.2
    | cons k hs =>
      rw [List.zip_cons_cons, List.filterMap_cons, ih h.2, finding?, h.1.count_eq, h.1.files_eq,
        List.filter_cons]
      by_cases hzero : r.total scans = 0
      · simp [hzero]
      · simp [hzero, Nat.pos_of_ne_zero hzero, ScoredRule.finding, maxFiles]

/-- **The findings of a usage are the listing of the texts whose tallies it holds.** -/
theorem Tallies.isListing (h : Tallies table scans u) :
    IsListing table scans (u.findings table) := by
  let le (p q : ScoredRule × Nat) : Bool := before (p.1.finding scans) (q.1.finding scans)
  refine ⟨(table.matching scans).mergeSort le, fun p => ?_, ?_, ?_⟩
  · rw [List.mem_mergeSort, table.mem_matching]
  · have htrans : ∀ p q s, le p q → le q s → le p s := fun p q s => before_trans _ _ _
    have htotal : ∀ p q, le p q || le q p := fun p q => before_total _ _
    refine (pairwise_mergeSort_of_pairwise htrans htotal (table.pairwise_matching scans)).imp ?_
    rintro p q ⟨hpq, hqp⟩
    rw [before_iff] at hpq hqp
    simp only [ScoredRule.finding] at hpq hqp
    rcases hpq with hpq | ⟨htier, hle⟩
    · exact .inl hpq
    · refine .inr ⟨htier, ?_⟩
      rcases hle.lt_or_eq with hlt | heq
      · exact .inl hlt
      · exact .inr ⟨heq, hqp (.inr ⟨htier.symm, heq.symm.le⟩)⟩
  · rw [findings, h.filterMap_finding, ← table.map_matching]
    exact (List.map_mergeSort (r := le) (s := before) fun p _ q _ => rfl).symm

end Usage

/-! ## Every way to scan and merge -/

namespace MergeTree

/-- **The findings do not depend on the order of the scans or the way of merging.** They are the
listing of the scanned texts: one finding for each rule that matches, with all its matches and the
first ten of its files, at least one and no more than matches; all blocking ones come first. -/
theorem isListing_findings (table : RuleTable) (scans : List ScannedText) (t : MergeTree)
    (ht : t.scans.Perm scans) :
    IsListing table scans ((t.usage table).findings table) ∧
      (∀ other : MergeTree, other.scans.Perm scans →
        (other.usage table).findings table = (t.usage table).findings table) ∧
      (∀ f ∈ (t.usage table).findings table,
        1 ≤ f.files.length ∧ f.files.length ≤ min 10 f.count) ∧
      ∀ report : Report, report.apiUsages = (t.usage table).findings table →
        report.findingsIn .blocking ++ report.findingsIn .needsRework = report.apiUsages := by
  have hlisting : ∀ other : MergeTree, other.scans.Perm scans →
      IsListing table scans ((other.usage table).findings table) := fun other hother =>
    ((other.usage_tallies table).isListing).perm hother
  refine ⟨hlisting t ht, fun other hother => (hlisting other hother).unique (hlisting t ht),
    fun f hf => (hlisting t ht).length_files hf, fun report hreport => ?_⟩
  rw [Report.findingsIn, Report.findingsIn, hreport]
  exact (hlisting t ht).filter_append_filter

/-- Two rules, of which the second one is blocking. -/
def sampleTable : RuleTable where
  scored := [
    ⟨⟨"fork", .needsRework, "posix_spawn", true⟩, .text ['f', 'o', 'r', 'k'], by decide⟩,
    ⟨⟨"bpf", .blocking, "none", true⟩, .text ['b', 'p', 'f'], by decide⟩]
  safe := []

/-- Three texts of two files. -/
def sampleTexts : List ScannedText :=
  [⟨"a.c", "bpf fork".toList⟩, ⟨"b.c", "fork vfork".toList⟩, ⟨"b.c", "fork".toList⟩]

/-- The texts in another order, merged from the right, with an empty result. -/
def sampleTree : MergeTree :=
  .merge (.scan ⟨"b.c", "fork vfork".toList⟩)
    (.merge (.merge .zero (.scan ⟨"a.c", "bpf fork".toList⟩)) (.scan ⟨"b.c", "fork".toList⟩))

theorem isListing_findings_sample :
    sampleTree.scans.Perm sampleTexts ∧
      IsListing sampleTable sampleTexts ((sampleTree.usage sampleTable).findings sampleTable) ∧
      ((sampleTree.usage sampleTable).findings sampleTable).map
        (fun f => (f.name, f.count, f.files)) =
          [("bpf", 1, ["a.c"]), ("fork", 4, ["a.c", "b.c"])] := by
  have hperm : sampleTree.scans.Perm sampleTexts := .swap _ _ _
  exact ⟨hperm, (isListing_findings sampleTable sampleTexts sampleTree hperm).1, by cbv⟩

end MergeTree

end Readiness
