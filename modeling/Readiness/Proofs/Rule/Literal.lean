import Readiness.Proofs.Pattern.Occurrences
import Readiness.Proofs.Rule.Modes

/-!
# Rules that stand for themselves

The pattern of a literal rule is searched for as it is, whatever characters it has. Counting by the
rule is plain search for its pattern: in word mode for those occurrences that begin and end at word
edges, where an occurrence that does not takes up nothing.

* `Rule.plainCount` : plain search in both modes.
* `Rule.literal_counts` : literal rules can be searched for and count as plain search does.
-/

namespace Readiness.Rule

/-- How often a text is found by plain search: in substring mode wherever it stands, in word mode
where it stands between word edges, always from left to right without overlap. The empty text is
found at every place, or at every word edge. -/
def plainCount : MatchMode → (s text : List Char) → Nat
  | .substring, [], text => text.length + 1
  | .word, [], text => Text.places Text.isWordEdge text
  | .substring, x :: s, text => Text.occurrences (x :: s) (fun _ _ => true) text
  | .word, x :: s, text => Text.occurrences (x :: s)
      (fun before after =>
        Text.isWordEdge before (some x) && Text.isWordEdge (x :: s).getLast? after) text

theorem count_literalPattern (mode : MatchMode) (s text : List Char) :
    (literalPattern mode s).count text = plainCount mode s text := by
  cases mode with
  | substring =>
    cases s with
    | nil => exact Pattern.count_text_nil text
    | cons x s => exact Pattern.count_text (List.cons_ne_nil x s) text
  | word =>
    cases s with
    | nil => exact Pattern.count_edge_edge text
    | cons x s => exact Pattern.count_edge_text_edge (List.cons_ne_nil x s) text

/-- **Literal rules count as plain search does**, in both modes. Reading their patterns never fails,
and nothing but the limit on the size of all patterns keeps a rule from being searched for. -/
theorem literal_counts {r : Rule} (hliteral : r.literal = true) (hscored : r.tier ≠ .safe)
    (mode : MatchMode) : ∃ p, Pattern.parse (r.source mode) = .ok p ∧
      p.weight ≤ r.pattern.toList.length + 2 ∧
      (r.matcher mode = if p.weight ≤ Pattern.weightLimit then .ok p else .error .tooLarge) ∧
      ∀ text, (ScoredRule.mk r p hscored).countIn text =
        plainCount mode r.pattern.toList text := by
  have hparse := parse_source_of_literal hliteral mode
  have hmatcher := matcher_of_literal hliteral mode
  exact ⟨_, hparse, weight_literalPattern_le mode _, hmatcher, count_literalPattern mode _⟩

/-- A pattern that overlaps itself. -/
def overlapping : Rule := ⟨"a-a", .needsRework, "", true⟩

/-- In `xa-a-a` the first occurrence does not begin at a word edge and leaves room for the second
one, which does. -/
theorem literal_counts_sample : overlapping.literal = true ∧ overlapping.tier ≠ .safe ∧
    ∃ p, overlapping.matcher .word = .ok p ∧
      ∀ h : overlapping.tier ≠ .safe,
        (ScoredRule.mk overlapping p h).countIn "xa-a-a".toList = 1 := by
  have hscored : overlapping.tier ≠ .safe := by decide
  obtain ⟨p, -, hweight, hmatcher, hcount⟩ := literal_counts (r := overlapping) rfl hscored .word
  have hplain : plainCount .word overlapping.pattern.toList "xa-a-a".toList = 1 := by decide +kernel
  have hsmall : overlapping.pattern.toList.length + 2 ≤ Pattern.weightLimit := by decide +kernel
  refine ⟨rfl, hscored, p, ?_, fun h => (hcount _).trans hplain⟩
  rw [hmatcher, if_pos (hweight.trans hsmall)]

end Readiness.Rule
