import Mathlib
import Readiness.Report.Basic

/-!
# The two policies

What the ordered rows of the grade policy and the advice policy come to, as conditions on totals and
signals, and that both only get stricter.

* `Totals.outcome_grade` : the grade as a case table on the totals.
* `Totals.rank_outcome_le` : larger totals never have a better grade.
* `Signals.advice_eq` : the advice, condition by condition.
* `Signals.advice_sublist` : more signals never take advice away.
-/

namespace Readiness

namespace Totals
variable (t u : Totals)

theorem outcome_grade : t.outcome.grade =
    if 5 < t.blocking ∨ 20 < t.pathUsages then .D
    else if 0 < t.blocking ∨ 10 < t.pathUsages ∨ 20 < t.needsRework then .C
    else if 5 < t.needsRework then .B
    else .A := by
  unfold outcome gradePolicy
  by_cases hD : 5 < t.blocking ∨ 20 < t.pathUsages
  · simp [hD]
  · by_cases hC : 0 < t.blocking ∨ 10 < t.pathUsages
    · simp [hD, hC, ← or_assoc]
    · by_cases hR : 20 < t.needsRework
      · simp [hD, hC, hR]
      · by_cases hB : 5 < t.needsRework <;>
          simp [hD, hC, hR, hB, easyOutcome]

theorem grade_eq_D_iff : t.outcome.grade = .D ↔ 5 < t.blocking ∨ 20 < t.pathUsages := by
  rw [outcome_grade]
  split_ifs <;> simp_all

theorem grade_eq_C_iff : t.outcome.grade = .C ↔ t.blocking ≤ 5 ∧ t.pathUsages ≤ 20 ∧
    (0 < t.blocking ∨ 10 < t.pathUsages ∨ 20 < t.needsRework) := by
  rw [outcome_grade]
  split_ifs <;> simp only [true_iff, false_iff] <;> omega

theorem grade_eq_B_iff : t.outcome.grade = .B ↔ t.blocking = 0 ∧ t.pathUsages ≤ 10 ∧
    5 < t.needsRework ∧ t.needsRework ≤ 20 := by
  rw [outcome_grade]
  split_ifs <;> simp only [true_iff, false_iff] <;> omega

theorem grade_eq_A_iff : t.outcome.grade = .A ↔ t.blocking = 0 ∧ t.pathUsages ≤ 10 ∧
    t.needsRework ≤ 5 := by
  rw [outcome_grade]
  split_ifs <;> simp only [true_iff, false_iff] <;> omega

/-- **Larger totals never have a better grade.** -/
theorem rank_outcome_le {t u : Totals} (hb : t.blocking ≤ u.blocking)
    (hr : t.needsRework ≤ u.needsRework) (hp : t.pathUsages ≤ u.pathUsages) :
    t.outcome.grade.rank ≤ u.outcome.grade.rank := by
  rw [outcome_grade, outcome_grade]
  split_ifs <;> simp only [Grade.rank] <;> omega

end Totals

namespace Signals

theorem advice_eq (s : Signals) : s.advice =
    (if s.grade = .C ∨ s.grade = .D then
      ["evaluate alternative libraries", "confirm porting necessity with the team"] else []) ++
    (if s.hasBlocking then ["isolate Linux-specific code into a separate module"] else []) ++
    (if s.hasUnknownDependency then ["verify dependency availability on the target"] else []) := by
  unfold advice advicePolicy
  by_cases hg : s.grade = .C ∨ s.grade = .D <;> cases hb : s.hasBlocking <;>
    cases hd : s.hasUnknownDependency <;> simp [hg, hb, hd]

theorem nodup_advice (s : Signals) : s.advice.Nodup := by
  rw [advice_eq]
  split_ifs <;> decide

theorem prefix_advice {s : Signals} (hs : s.hasBlocking → s.grade = .C ∨ s.grade = .D)
    (h : "isolate Linux-specific code into a separate module" ∈ s.advice) :
    ["evaluate alternative libraries", "confirm porting necessity with the team",
      "isolate Linux-specific code into a separate module"] <+: s.advice := by
  rw [advice_eq] at h ⊢
  by_cases hb : s.hasBlocking
  · rw [if_pos (hs hb), if_pos hb]
    exact List.prefix_append _ _
  · rw [if_neg hb] at h
    split_ifs at h <;> simp at h

/-- **More signals never take advice away.** -/
theorem advice_sublist {s t : Signals} (hg : s.grade.rank ≤ t.grade.rank)
    (hb : s.hasBlocking → t.hasBlocking) (hd : s.hasUnknownDependency → t.hasUnknownDependency) :
    s.advice.Sublist t.advice := by
  have hgrade : s.grade = .C ∨ s.grade = .D → t.grade = .C ∨ t.grade = .D := by
    cases hs : s.grade <;> cases ht : t.grade <;> simp [hs, ht, Grade.rank] at hg ⊢
  have hpart : ∀ {p q : Prop} [Decidable p] [Decidable q] (l : List String), (p → q) →
      (if p then l else []).Sublist (if q then l else []) := by
    intro p q _ _ l hpq
    split_ifs with hp hq
    · exact List.Sublist.refl l
    · exact absurd (hpq hp) hq
    · exact List.nil_sublist l
    · exact List.Sublist.refl []
  rw [advice_eq, advice_eq]
  exact ((hpart _ hgrade).append (hpart _ hb)).append (hpart _ hd)

end Signals

end Readiness
