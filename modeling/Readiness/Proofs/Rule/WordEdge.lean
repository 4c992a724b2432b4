import Readiness.Proofs.Pattern.Enclosed
import Readiness.Proofs.Pattern.Overlap
import Readiness.Proofs.Rule.Table

/-!
# Where rules match in word mode

In word mode the pattern of a rule that does not stand for itself is read within a group behind a
word edge. What is read is the pattern of substring mode behind a word edge, so that all matches
begin at the edges of words, unless the pattern closes the group around it. Then it has no meaning
in substring mode, and a match may begin anywhere.

* `Span.BeginsAtWordEdge` : where the matches of word mode should begin.
* `Rule.matcher_of_word` : what is read in word mode.
* `RuleTable.tightens_or_unopenedGroup` : the rules of a table.
-/

namespace Readiness

/-- Whether the match begins at a place of the text where a word begins or ends. -/
def Span.BeginsAtWordEdge (s : Span) (text : List Char) : Prop :=
  ∃ before after, text = before ++ after ∧ s.start = ⟨before.length, before.getLast?, after⟩ ∧
    Text.isWordEdge before.getLast? after.head?

namespace Pattern
variable {p : Pattern} {s : Span} {text : List Char}

theorem exists_place_of_mem_spans (h : s ∈ p.spans text) :
    ∃ before after, text = before ++ after ∧ s.start = ⟨before.length, before.getLast?, after⟩ ∧
      p.end? s.start = some s.stop := by
  obtain ⟨before, after, d, htext, hattempt⟩ := exists_attempt_of_mem_search h
  obtain ⟨stop, hstop, heq⟩ := Option.map_eq_some_iff.mp hattempt
  obtain ⟨rfl, rfl⟩ := Prod.mk.inj heq
  refine ⟨before, after, htext, ?_, hstop⟩
  simp [Cursor.after]

/-- **Matches behind a word edge** begin at one, and are matches without it. -/
theorem of_mem_spans_seq_edge (h : s ∈ (seq edge p).spans text) :
    s.BeginsAtWordEdge text ∧ p.end? s.start = some s.stop := by
  obtain ⟨before, after, htext, hstart, hend⟩ := exists_place_of_mem_spans h
  rw [end?_seq_edge] at hend
  split_ifs at hend with hedge
  refine ⟨⟨before, after, htext, hstart, ?_⟩, hend⟩
  rwa [hstart] at hedge

end Pattern

/-- **What is read in word mode**: the pattern of substring mode behind a word edge, unless the
pattern closes a group that it does not open. -/
theorem Rule.matcher_of_word {r : Rule} (hr : r.literal = false) {p : Pattern}
    (h : r.matcher .word = .ok p) :
    (∃ q, r.matcher .substring = .ok q ∧ p = .seq Pattern.edge q) ∨
      r.matcher .substring = .error .unopenedGroup := by
  obtain ⟨pattern, tier, guidance, literal⟩ := r
  obtain rfl : literal = false := hr
  exact Pattern.ofSource_of_enclosed h

/-- Whether the rule of word mode can be searched for in substring mode, and all its matches begin
at the edges of words and are what substring mode would find there. -/
def ScoredRule.Tightens (r : ScoredRule) : Prop :=
  ∃ q, r.rule.matcher .substring = .ok q ∧ ∀ text, ∀ s ∈ r.matcher.spans text,
    s.BeginsAtWordEdge text ∧ q.end? s.start = some s.stop

namespace RuleTable

/-- **Word mode tightens a rule**, or the pattern of the rule closes a group that it does not open
and substring mode refuses it for this. -/
theorem tightens_or_unopenedGroup {rules : List Rule} {t : RuleTable}
    (ht : ofRules .word rules = .ok t) {r : ScoredRule} (hr : r ∈ t.scored)
    (hliteral : r.rule.literal = false) :
    r.Tightens ∨ r.rule.matcher .substring = .error .unopenedGroup := by
  have hmatcher := (scored_spec ht).1 r hr
  rcases Rule.matcher_of_word hliteral hmatcher with ⟨q, hq, hp⟩ | herror
  · refine .inl ⟨q, hq, fun text s hs => ?_⟩
    rw [hp] at hs
    exact Pattern.of_mem_spans_seq_edge hs
  · exact .inr herror

/-- A rule for one of two letters. -/
def letterRule : Rule := ⟨"a|b", .blocking, "", false⟩

theorem tightens_or_unopenedGroup_sample : ∃ t, ofRules .word [letterRule] = .ok t ∧
    letterRule.literal = false ∧ ∃ r ∈ t.scored, r.rule = letterRule ∧ r.Tightens := by
  let p : Pattern := .seq Pattern.edge (.alt (.char (.one 'a')) (.char (.one 'b')))
  let r : ScoredRule := ⟨letterRule, p, by decide⟩
  have ht : ofRules .word [letterRule] = .ok ⟨[r], []⟩ := rfl
  refine ⟨_, ht, rfl, r, List.mem_singleton_self r, rfl, ?_⟩
  rcases tightens_or_unopenedGroup ht (List.mem_singleton_self r) rfl with htightens | herror
  · exact htightens
  · have hsubstring : letterRule.matcher .substring =
        .ok (.alt (.char (.one 'a')) (.char (.one 'b'))) := rfl
    cases hsubstring.symm.trans herror

/-- A rule that closes the group around its pattern and opens another one. -/
def unbalancedRule : Rule := ⟨"a)|(?:b", .blocking, "", false⟩

/-- **Word mode may read what substring mode refuses**, and find it within a word. -/
theorem word_of_unopenedGroup : ∃ t, ofRules .word [unbalancedRule] = .ok t ∧
    (∀ u, ofRules .substring [unbalancedRule] ≠ .ok u) ∧
    ∃ r ∈ t.scored, r.countIn ['x', 'b'] = 1 ∧
      ∃ s ∈ r.matcher.spans ['x', 'b'], ¬ s.BeginsAtWordEdge ['x', 'b'] := by
  let p : Pattern := .alt (.seq Pattern.edge (.char (.one 'a'))) (.char (.one 'b'))
  let r : ScoredRule := ⟨unbalancedRule, p, by decide⟩
  let s : Span := ⟨⟨1, some 'x', ['b']⟩, ⟨2, some 'b', []⟩⟩
  have ht : ofRules .word [unbalancedRule] = .ok ⟨[r], []⟩ := rfl
  have hsubstring : ofRules .substring [unbalancedRule] =
      .error (unbalancedRule, .unopenedGroup) := rfl
  have hspans : p.spans ['x', 'b'] = [s] := rfl
  refine ⟨_, ht, fun u hu => ?_, r, List.mem_singleton_self r, ?_, s, ?_, ?_⟩
  · rw [hsubstring] at hu
    cases hu
  · show (p.spans ['x', 'b']).length = 1
    rw [hspans]
    rfl
  · show s ∈ p.spans ['x', 'b']
    rw [hspans]
    exact List.mem_singleton_self s
  · -- No word begins or ends between the two letters.
    rintro ⟨before, after, -, hstart, hedge⟩
    obtain ⟨-, hbefore, hafter⟩ := Cursor.mk.inj hstart
    rw [← hbefore, ← hafter] at hedge
    exact absurd hedge (by decide)

end RuleTable

end Readiness
