import Readiness.Command.Run
import Readiness.Proofs.Rule.Modes

/-!
# The built-in table

The patterns of the built-in rules can be searched for in both match modes, so no run fails because
of them.

* `Command.exists_builtinTable` : the built-in rules have a table.
-/

namespace Readiness

namespace Rule

theorem exists_matcher_of_literal {r : Rule} (h : r.literal = true)
    (hlength : r.pattern.toList.length + 2 ≤ Pattern.weightLimit) (mode : MatchMode) :
    ∃ p, r.matcher mode = .ok p := by
  have hweight := weight_literalPattern_le mode r.pattern.toList
  exact ⟨_, by rw [matcher_of_literal h, if_pos (hweight.trans hlength)]⟩

theorem length_le_of_mem_reworkNames :
    ∀ x ∈ reworkNames, x.1.toList.length + 2 ≤ Pattern.weightLimit := by
  decide +kernel

theorem exists_matcher_of_mem_builtin {r : Rule} (h : r ∈ builtin) (hsafe : r.tier ≠ .safe)
    (mode : MatchMode) : ∃ p, r.matcher mode = .ok p := by
  rw [builtin, List.mem_append, List.mem_append] at h
  rcases h with (h | h) | h
  · obtain ⟨x, -, hx⟩ := exists_searchesFor_of_mem h
    exact ⟨_, hx.matcher_eq mode⟩
  · obtain ⟨x, hmem, rfl⟩ := List.mem_map.mp h
    have hlength := length_le_of_mem_reworkNames x hmem
    exact @exists_matcher_of_literal ⟨x.1, .needsRework, x.2, true⟩ rfl hlength mode
  · obtain ⟨x, -, rfl⟩ := List.mem_map.mp h
    exact absurd rfl hsafe

end Rule

/-- **The built-in rules** have a table in both modes. -/
theorem Command.exists_builtinTable (mode : MatchMode) : ∃ t, builtinTable mode = .ok t := by
  obtain ⟨t, ht⟩ := @RuleTable.exists_ofRules mode Rule.builtin
    fun r hr hsafe => Rule.exists_matcher_of_mem_builtin hr hsafe mode
  exact ⟨t, by rw [builtinTable, ht]; rfl⟩

end Readiness
