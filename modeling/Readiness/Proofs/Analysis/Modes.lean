import Readiness.Proofs.Analysis.Files
import Readiness.Proofs.Rule.Modes

/-!
# Reports in the two match modes

A table whose rules match less often never makes a report stricter, and what does not come from
rules stays the same.

* `RuleTable.Narrows.grade_le`, `RuleTable.Narrows.recommendations_sublist` : grade and advice of
  narrower tables.
* `Analysis.run_modes` : a tree analysed in both modes.
-/

namespace Readiness

/-! ## Totals -/

theorem ScoredRule.Narrows.total_le {a b : ScoredRule} (h : a.Narrows b)
    (scans : List ScannedText) : a.total scans ≤ b.total scans :=
  List.sum_le_sum fun s _ => h.countIn_le s.text

namespace RuleTable.Narrows
variable {t u : RuleTable}

theorem sum_countIn_le {as bs : List ScoredRule} (h : List.Forall₂ ScoredRule.Narrows as bs)
    (tier : Tier) (text : List Char) :
    ((as.filter (·.rule.tier = tier)).map (·.countIn text)).sum ≤
      ((bs.filter (·.rule.tier = tier)).map (·.countIn text)).sum := by
  induction h with
  | nil => exact Nat.le_refl _
  | @cons a b as bs hab _ ih =>
    have hcount := hab.countIn_le text
    rw [List.filter_cons, List.filter_cons, hab.rule_eq]
    split_ifs
    · simpa using Nat.add_le_add hcount ih
    · exact ih

theorem occurrences_le (h : t.Narrows u) (tier : Tier) (files : List SourceFile) :
    t.occurrences tier files ≤ u.occurrences tier files := by
  refine List.sum_le_sum fun f _ => ?_
  cases f.text with
  | none => exact Nat.le_refl _
  | some text => exact sum_countIn_le h.scored tier text

theorem exists_wider {as bs : List ScoredRule} (h : List.Forall₂ ScoredRule.Narrows as bs)
    {a : ScoredRule} (ha : a ∈ as) : ∃ b ∈ bs, a.Narrows b := by
  induction h with
  | nil => cases ha
  | @cons x b xs bs hxb _ ih =>
    rcases List.mem_cons.mp ha with rfl | ha
    · exact ⟨b, List.mem_cons_self, hxb⟩
    · obtain ⟨b', hb', hab⟩ := ih ha
      exact ⟨b', List.mem_cons_of_mem b hb', hab⟩

theorem matched_sublist {as bs : List ScoredRule} (h : List.Forall₂ ScoredRule.Narrows as bs)
    (scans : List ScannedText) :
    ((as.filter fun r => 0 < r.total scans).map (·.rule)).Sublist
      ((bs.filter fun r => 0 < r.total scans).map (·.rule)) := by
  induction h with
  | nil => exact List.Sublist.slnil
  | @cons a b as bs hab _ ih =>
    have hle := hab.total_le scans
    rw [List.filter_cons, List.filter_cons]
    split_ifs with ha hb
    · rw [List.map_cons, List.map_cons, hab.rule_eq]
      exact ih.cons_cons _
    · simp only [decide_eq_true_eq] at ha hb
      omega
    · exact ih.cons _
    · exact ih

/-! ## Reports -/

open Analysis

variable (projectPath : String) (files : List SourceFile) (dependencies : List Dependency)

/-- What a finding says about its rule. -/
def subject (f : ApiFinding) : String × Tier × String := (f.name, f.tier, f.guidance)

/-- **Every rule found with the narrower table is found with the wider one.** -/
theorem subjects_subperm (h : t.Narrows u) :
    ((assemble t projectPath files dependencies).apiUsages.map subject).Subperm
      ((assemble u projectPath files dependencies).apiUsages.map subject) := by
  have hsubject : ∀ rs : List ScoredRule,
      ((rs.map (·.finding (Inventory.texts files))).map subject) =
        (rs.map (·.rule)).map fun r => (r.pattern, r.tier, r.guidance) := by
    intro rs
    rw [List.map_map, List.map_map]
    rfl
  have ht := (assemble_isListing t projectPath files dependencies).perm_findings.map subject
  have hu := (assemble_isListing u projectPath files dependencies).perm_findings.map subject
  rw [hsubject] at ht hu
  exact (ht.subperm.trans ((matched_sublist h.scored _).map _).subperm).trans hu.symm.subperm

theorem exists_finding (h : t.Narrows u) {f : ApiFinding}
    (hf : f ∈ (assemble t projectPath files dependencies).apiUsages) :
    ∃ g ∈ (assemble u projectPath files dependencies).apiUsages,
      subject g = subject f ∧ f.count ≤ g.count := by
  obtain ⟨a, ha, hpos, rfl⟩ := (assemble_isListing t projectPath files dependencies).exists_rule hf
  obtain ⟨b, hb, hab⟩ := exists_wider h.scored ha
  have hle := hab.total_le (Inventory.texts files)
  refine ⟨_, (assemble_isListing u projectPath files dependencies).finding_mem hb (by omega), ?_,
    hle⟩
  simp only [subject, ScoredRule.finding, hab.rule_eq]

theorem grade_le (h : t.Narrows u) :
    (assemble t projectPath files dependencies).grade.rank ≤
      (assemble u projectPath files dependencies).grade.rank :=
  assemble_grade_le (h.occurrences_le _ _) (h.occurrences_le _ _) (Nat.le_refl _) _ _ _ _

theorem recommendations_sublist (h : t.Narrows u) :
    (assemble t projectPath files dependencies).recommendations.Sublist
      (assemble u projectPath files dependencies).recommendations :=
  assemble_recommendations_sublist (h.occurrences_le _ _) (h.occurrences_le _ _) (Nat.le_refl _)
    _ _ _ _ id

end RuleTable.Narrows

namespace Analysis

theorem assemble_independent (t u : RuleTable) (projectPath : String) (files : List SourceFile)
    (dependencies : List Dependency) :
    (assemble t projectPath files dependencies).fileStats =
        (assemble u projectPath files dependencies).fileStats ∧
      (assemble t projectPath files dependencies).dependencies =
        (assemble u projectPath files dependencies).dependencies ∧
      (assemble t projectPath files dependencies).pathUsages =
        (assemble u projectPath files dependencies).pathUsages := by
  refine ⟨?_, rfl, ?_⟩
  · rw [assemble_fileStats, assemble_fileStats]
  · rw [assemble_pathUsages, assemble_pathUsages]

/-- **Word mode is never stricter.** Rules that stand for themselves and built-in rules have a
table in substring mode if they have one in word mode. Every rule matches at least as often there,
and a tree analysed with that table has all the findings, a grade that is no better and all the
advice of the analysis in word mode; what does not come from rules is the same. -/
theorem run_modes (rules : List Rule)
    (hrules : ∀ r ∈ rules, r.tier ≠ .safe → r.literal = true ∨ r ∈ Rule.builtin) (t : RuleTable)
    (ht : RuleTable.ofRules .word rules = .ok t) :
    ∃ u, RuleTable.ofRules .substring rules = .ok u ∧
      List.Forall₂ (fun a b => a.rule = b.rule ∧ (∀ text, a.countIn text ≤ b.countIn text) ∧
        ∀ scans, a.total scans ≤ b.total scans) t.scored u.scored ∧
      ∀ d root allowlist exclusions names, findRoot d root = .ok names →
        ∃ r s, run d root ⟨t, allowlist, exclusions⟩ = .ok r ∧
          run d root ⟨u, allowlist, exclusions⟩ = .ok s ∧
          (r.apiUsages.map fun f => (f.name, f.tier, f.guidance)).Subperm
            (s.apiUsages.map fun f => (f.name, f.tier, f.guidance)) ∧
          (∀ f ∈ r.apiUsages, ∃ g ∈ s.apiUsages,
            (g.name, g.tier, g.guidance) = (f.name, f.tier, f.guidance) ∧ f.count ≤ g.count) ∧
          r.grade.rank ≤ s.grade.rank ∧
          r.recommendations.Sublist s.recommendations ∧
          r.fileStats = s.fileStats ∧ r.dependencies = s.dependencies ∧
          r.pathUsages = s.pathUsages := by
  have hnarrows : ∀ r ∈ rules, r.tier ≠ .safe → r.Narrows := fun r hr htier =>
    (hrules r hr htier).elim Rule.narrows_of_literal Rule.narrows_of_mem_builtin
  obtain ⟨u, hu, h⟩ := RuleTable.exists_substring_of_word hnarrows ht
  refine ⟨u, hu, h.scored.imp fun _ _ hab => ⟨hab.rule_eq, hab.countIn_le, hab.total_le⟩, ?_⟩
  intro d root allowlist exclusions names hroot
  refine ⟨_, _, run_eq hroot _, run_eq hroot _, ?_⟩
  obtain ⟨hstats, hdependencies, hpaths⟩ := assemble_independent t u (Disk.canonical names)
    (Inventory.collect (folderAt d names) exclusions) (dependencies allowlist (folderAt d names))
  exact ⟨h.subjects_subperm _ _ _, fun f hf => h.exists_finding _ _ _ hf,
    h.grade_le _ _ _, h.recommendations_sublist _ _ _, hstats, hdependencies, hpaths⟩

/-- The built-in rules have a table in word mode, and a tree is analysed with it. -/
theorem run_modes_sample :
    (∀ r ∈ Rule.builtin, r.tier ≠ .safe → r.literal = true ∨ r ∈ Rule.builtin) ∧
      ∃ t u, RuleTable.ofRules .word Rule.builtin = .ok t ∧
        RuleTable.ofRules .substring Rule.builtin = .ok u ∧
        findRoot ⟨sampleFolder, []⟩ "." = .ok [] ∧
        ∃ r s, run ⟨sampleFolder, []⟩ "." ⟨t, .builtin, []⟩ = .ok r ∧
          run ⟨sampleFolder, []⟩ "." ⟨u, .builtin, []⟩ = .ok s ∧ r.grade.rank ≤ s.grade.rank := by
  have hrules : ∀ r ∈ Rule.builtin, r.tier ≠ .safe → r.literal = true ∨ r ∈ Rule.builtin :=
    fun r hr _ => .inr hr
  have hroot : findRoot ⟨sampleFolder, []⟩ "." = .ok [] := by cbv
  have hok : (RuleTable.ofRules .word Rule.builtin).isOk = true := by decide +kernel
  cases ht : RuleTable.ofRules .word Rule.builtin with
  | error e =>
    rw [ht] at hok
    cases hok
  | ok t =>
    obtain ⟨u, hu, -, hrun⟩ := run_modes Rule.builtin hrules t ht
    obtain ⟨r, s, hr, hs, -, -, hgrade, -⟩ := hrun ⟨sampleFolder, []⟩ "." .builtin [] [] hroot
    exact ⟨hrules, t, u, rfl, hu, hroot, r, s, hr, hs, hgrade⟩

end Analysis

end Readiness
