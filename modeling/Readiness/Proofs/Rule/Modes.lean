import Readiness.Proofs.Rule.Table
import Readiness.Proofs.Rule.Target

/-!
# Match modes

In word mode a rule matches at word edges only. This never makes rules that stand for themselves
match more often, whatever their text, nor the built-in ones. For others it can.

* `Rule.matcher_of_literal` : what rules that stand for themselves search for.
* `Rule.Narrows` : word mode finds a rule at most as often as substring mode.
* `Rule.narrows_of_literal`, `Rule.narrows_of_mem_builtin` : the rules for which it does.
* `Rule.exists_not_narrows` : there are others.
* `RuleTable.exists_substring_of_word` : the tables of the two modes.
-/

namespace Readiness

/-! ## One rule -/

namespace Rule

/-- Whether a rule that can be searched for in word mode can be in substring mode, where it matches
at least as often. -/
def Narrows (r : Rule) : Prop :=
  ∀ p, r.matcher .word = .ok p →
    ∃ q, r.matcher .substring = .ok q ∧ ∀ text, p.count text ≤ q.count text

/-- The pattern that a literal rule with this text searches for. -/
def literalPattern : MatchMode → (s : List Char) → Pattern
  | .substring, s => .text s
  | .word, s => .sequence (Pattern.edge :: Pattern.chars s ++ [Pattern.edge])

theorem parse_source_of_literal {r : Rule} (h : r.literal = true) (mode : MatchMode) :
    Pattern.parse (r.source mode) = .ok (literalPattern mode r.pattern.toList) := by
  cases mode with
  | substring =>
    rw [source, if_pos h]
    exact Pattern.parse_quote _
  | word =>
    have hsource : r.source .word =
        '\\' :: 'b' :: Pattern.quote r.pattern.toList ++ ['\\', 'b'] := by
      simp only [source, h, if_true]
    rw [hsource]
    exact Pattern.parse_edge_quote_edge _

theorem weight_edge_chars_edge (s : List Char) :
    (literalPattern .word s).weight = s.length + 2 := by
  have hchars : ((Pattern.chars s).map Pattern.weight).sum = s.length := by
    rw [Pattern.chars, List.map_map]
    simp [Function.comp_def, Pattern.weight]
  rw [literalPattern, Pattern.weight_sequence (by simp), List.cons_append, List.map_cons,
    List.map_append, List.sum_cons, List.sum_append, hchars]
  simp [Pattern.edge, Pattern.weight]
  omega

theorem weight_literalPattern_le (mode : MatchMode) (s : List Char) :
    (literalPattern mode s).weight ≤ s.length + 2 := by
  rw [← weight_edge_chars_edge]
  cases mode with
  | substring => exact Pattern.weight_text_le _ _ s
  | word => exact Nat.le_refl _

theorem matcher_of_literal {r : Rule} (h : r.literal = true) (mode : MatchMode) :
    r.matcher mode =
      if (literalPattern mode r.pattern.toList).weight ≤ Pattern.weightLimit then
        .ok (literalPattern mode r.pattern.toList)
      else .error .tooLarge := by
  rw [matcher, Pattern.ofSource, parse_source_of_literal h mode]
  rfl

/-- **Rules that stand for themselves** match at most as often in word mode. -/
theorem narrows_of_literal {r : Rule} (h : r.literal = true) : r.Narrows := by
  intro p hp
  rw [matcher_of_literal h] at hp
  split_ifs at hp with hweight
  cases hp
  have hsubstring : (literalPattern .substring r.pattern.toList).weight ≤ Pattern.weightLimit :=
    (Pattern.weight_text_le _ _ _).trans hweight
  refine ⟨literalPattern .substring r.pattern.toList, ?_, Pattern.count_between_asserts_le _ _ _⟩
  rw [matcher_of_literal h, if_pos hsubstring]

/-- **The built-in rules** match at most as often in word mode. -/
theorem narrows_of_mem_builtin {r : Rule} (h : r ∈ builtin) : r.Narrows := by
  rw [builtin, List.mem_append, List.mem_append] at h
  rcases h with (h | h) | h
  · obtain ⟨x, -, hx⟩ := exists_searchesFor_of_mem h
    intro q hq
    obtain rfl := Except.ok.inj ((hx.matcher_eq .word).symm.trans hq)
    exact ⟨_, hx.matcher_eq .substring, Pattern.count_seq_assert_le x.2.ordered_pattern _⟩
  · obtain ⟨x, -, rfl⟩ := List.mem_map.mp h
    exact narrows_of_literal rfl
  · obtain ⟨x, -, rfl⟩ := List.mem_map.mp h
    exact narrows_of_literal rfl

theorem exists_not_narrows : ∃ r : Rule, ¬ r.Narrows := by
  refine ⟨⟨"x.*|y", .blocking, "", false⟩, fun h => ?_⟩
  obtain ⟨q, hq, hcount⟩ := h _ rfl
  obtain rfl := Except.ok.inj hq
  exact absurd (hcount "ax y y".toList) (by decide +kernel)

end Rule

/-! ## Tables -/

/-- Whether the rules are one rule, and the first matches at most as often as the second. -/
structure ScoredRule.Narrows (a b : ScoredRule) : Prop where
  rule_eq : a.rule = b.rule
  countIn_le : ∀ text, a.countIn text ≤ b.countIn text

/-- Whether the tables have the same rules, and those of the first match at most as often. -/
structure RuleTable.Narrows (t u : RuleTable) : Prop where
  scored : List.Forall₂ ScoredRule.Narrows t.scored u.scored
  safe : t.safe = u.safe

namespace RuleTable
variable {rules : List Rule} {t : RuleTable}

/-- **The tables of the two modes.** Where the rules have a table in word mode, they have one in
substring mode, with the same rules, which match at least as often. -/
theorem exists_substring_of_word (hrules : ∀ r ∈ rules, r.tier ≠ .safe → r.Narrows)
    (ht : ofRules .word rules = .ok t) : ∃ u, ofRules .substring rules = .ok u ∧ t.Narrows u := by
  induction rules generalizing t with
  | nil =>
    cases ht
    exact ⟨⟨[], []⟩, rfl, .nil, rfl⟩
  | cons r rules ih =>
    obtain ⟨t', ht', hfirst⟩ := ofRules_cons_eq_ok_iff.mp ht
    obtain ⟨u', hu', hscored, hsafe⟩ := ih (fun x hx => hrules x (List.mem_cons_of_mem r hx)) ht'
    rcases hfirst with ⟨htier, rfl⟩ | ⟨htier, p, hp, rfl⟩
    · refine ⟨_, ofRules_cons_eq_ok_iff.mpr ⟨u', hu', .inl ⟨htier, rfl⟩⟩, hscored, ?_⟩
      rw [hsafe]
    · obtain ⟨q, hq, hcount⟩ := hrules r List.mem_cons_self htier p hp
      refine ⟨_, ofRules_cons_eq_ok_iff.mpr ⟨u', hu', .inr ⟨htier, q, hq, rfl⟩⟩, ?_, hsafe⟩
      exact .cons ⟨rfl, hcount⟩ hscored

end RuleTable

end Readiness
