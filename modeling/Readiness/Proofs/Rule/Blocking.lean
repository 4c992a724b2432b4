import Readiness.Proofs.Pattern.Line
import Readiness.Proofs.Rule.Builtin

/-!
# What the blocking rules count

A built-in blocking rule that looks for a name counts its occurrences, and one that looks for two
texts in one line counts the lines that have both. In word mode these are the ones with no word
character before; what stands behind does not matter.

* `Rule.Target.count` : what there is to count.
* `Rule.blocking_counts` : the built-in blocking rules count it.
-/

namespace Readiness

/-- Whether a match may begin behind the character, or at the beginning of a text. -/
def MatchMode.opens : MatchMode → (before : Option Char) → Bool
  | .substring, _ => true
  | .word, before => !before.any Unicode.isWord

namespace Rule.Target

/-- How often the target is found in a text: occurrences of a name, from left to right without
overlap, or lines with both texts of a pair. -/
def count (mode : MatchMode) : Target → (text : List Char) → Nat
  | .name s => Text.occurrencesBehind mode.opens s
  | .pair s t => Text.linkedLines mode.opens s t

/-- Whether the target begins with a word character and does not leave a line, and is made of word
characters if it is a name. -/
def plain : Target → Bool
  | .name s => !s.isEmpty && s.all Unicode.isWord
  | .pair s t => s.head?.any Unicode.isWord && (s ++ t).all (· != '\n')

theorem isWordEdge_of_isWord {x : Char} (hx : Unicode.isWord x) (before : Option Char) :
    Text.isWordEdge before (some x) = MatchMode.word.opens before := by
  simp [Text.isWordEdge, MatchMode.opens, hx]

/-- **A name** is counted as it occurs. -/
theorem count_matcher_name {s : List Char} (hne : s ≠ []) (hword : ∀ x ∈ s, Unicode.isWord x)
    (mode : MatchMode) (text : List Char) :
    ((name s).matcher mode).count text = (name s).count mode text := by
  rw [count]
  cases mode with
  | substring =>
    rw [matcher, pattern, Pattern.count_text hne, Text.occurrencesBehind, Text.occurrences]
    exact (congrFun List.countP_true _).symm
  | word =>
    obtain ⟨x, xs, rfl⟩ := List.exists_cons_of_ne_nil hne
    have hclosed : ∀ y ∈ x :: xs, MatchMode.word.opens (some y) = false := by
      intro y hy
      simp [MatchMode.opens, hword y hy]
    rw [matcher, pattern, Pattern.count_edge_text hne, List.head?_cons,
      ← Text.occurrences_eq_occurrencesBehind hclosed]
    simp only [isWordEdge_of_isWord (hword x List.mem_cons_self)]

/-- **A pair** is counted once for each line that has both texts. -/
theorem count_matcher_pair {x : Char} {s t : List Char} (hx : Unicode.isWord x)
    (hs : Text.InLine (x :: s)) (ht : Text.InLine t) (mode : MatchMode) (text : List Char) :
    ((pair (x :: s) t).matcher mode).count text = (pair (x :: s) t).count mode text := by
  have hlinks := Pattern.links_between (x :: s) t
  have hne := List.cons_ne_nil x s
  cases mode with
  | substring => exact hlinks.count_eq_linkedLines hs ht hne rfl text
  | word => exact (hlinks.seq_edge hx).count_eq_linkedLines hs ht hne (by decide +kernel) text

theorem count_matcher {x : Target} (h : x.plain) (mode : MatchMode) (text : List Char) :
    (x.matcher mode).count text = x.count mode text := by
  cases x with
  | name s =>
    simp only [plain, Bool.and_eq_true, Bool.not_eq_true', List.isEmpty_eq_false_iff,
      List.all_eq_true] at h
    exact count_matcher_name h.1 h.2 mode text
  | pair s t =>
    cases s with
    | nil => cases h
    | cons x s =>
      simp only [plain, List.head?_cons, Option.any_some, List.all_append, Bool.and_eq_true,
        List.all_eq_true, bne_iff_ne] at h
      exact count_matcher_pair h.1 h.2.1 h.2.2 mode text

-- The second of the three texts begins the match; a carriage return does not end the line.
example : ((pair "clone".toList "CLONE_NEW".toList).matcher .word).count
    "xclone clone(\r CLONE_NEW | CLONE_NEW)\nCLONE_NEW clone".toList = 1 := by
  decide +kernel

end Rule.Target

namespace Rule

theorem plain_of_mem_blockingTargets : ∀ x ∈ blockingTargets, x.2.plain :=
  List.all_eq_true.mp (by decide +kernel)

theorem filter_builtin_blocking :
    (builtin.filter (·.tier ≠ .safe)).filter (·.tier = .blocking) = blockingPatterns.map blocking :=
  rfl

theorem map_countIn_eq {mode : MatchMode} {rules : List Rule} {scored : List ScoredRule}
    {targets : List (String × Target)} (hscored : List.Forall₂ (ScoredBy mode) rules scored)
    (htargets : List.Forall₂ SearchesFor rules targets) (hplain : ∀ x ∈ targets, x.2.plain) :
    scored.map (fun r => (r.rule.pattern, r.countIn)) =
      targets.map fun x => (x.1, x.2.count mode) := by
  induction hscored generalizing targets with
  | nil =>
    cases htargets
    rfl
  | @cons r q _ _ hq _ ih =>
    cases htargets with
    | @cons _ x _ _ hx hrest =>
      rw [List.forall_mem_cons] at hplain
      have hmatcher : q.matcher = x.2.matcher mode :=
        Except.ok.inj (hq.matcher_eq.symm.trans (hx.matcher_eq mode))
      have hcount : q.countIn = x.2.count mode := by
        funext text
        rw [ScoredRule.countIn, hmatcher]
        exact Target.count_matcher hplain.1 mode text
      rw [List.map_cons, List.map_cons, hq.rule_eq, hx.pattern_eq, hcount, ih hrest hplain.2]

/-- **The built-in blocking rules count what they look for**, in both modes. They are always in the
table, in their order. -/
theorem blocking_counts (mode : MatchMode) : ∃ t, RuleTable.ofRules mode builtin = .ok t ∧
    (t.scored.filter (·.rule.tier = .blocking)).map (fun r => (r.rule.pattern, r.countIn)) =
      blockingTargets.map fun x => (x.1, x.2.count mode) := by
  obtain ⟨t, ht⟩ := RuleTable.exists_ofRules fun r hr hsafe =>
    exists_matcher_of_mem_builtin hr hsafe mode
  refine ⟨t, ht, ?_⟩
  have hscored := List.rel_filter (p := fun r : Rule => decide (r.tier = .blocking))
    (q := fun r : ScoredRule => decide (r.rule.tier = .blocking))
    (by rintro r scored ⟨rfl, -⟩; rfl) (RuleTable.forall₂_scored ht)
  rw [filter_builtin_blocking] at hscored
  exact map_countIn_eq hscored forall₂_blockingTargets plain_of_mem_blockingTargets

end Rule

end Readiness
