import Readiness.Proofs.Pattern.Quote
import Readiness.Proofs.Pattern.Reading
import Readiness.Proofs.Pattern.Run
import Readiness.Proofs.Text.Occurrences

/-!
# Patterns of fixed texts

How often the pattern of a fixed text is found, also between conditions on the places where it
begins and ends. A text that is not empty is found as often as it occurs without overlap, where a
place at which a condition fails takes up nothing. The empty text is found at every place that
satisfies the conditions.

* `Pattern.count_eq_occurrences` : patterns that match just where a text stands.
* `Pattern.count_eq_places` : patterns that match the empty text only.
* `Pattern.count_text`, `Pattern.count_edge_text`, `Pattern.count_edge_text_edge` : fixed texts
  alone and with word edges.
-/

namespace Readiness

open Cursor

variable {s : List Char} {c : Cursor}

theorem Cursor.skip?_eq (s : List Char) (c : Cursor) : c.skip? s =
    if s <+: c.rest then some (after c.offset c.before s (c.rest.drop s.length)) else none := by
  induction s generalizing c with
  | nil => rfl
  | cons x xs ih =>
    obtain ⟨offset, before, rest⟩ := c
    cases rest with
    | nil => simp [skip?, past?]
    | cons y ys =>
      rw [skip?, past?]
      by_cases hxy : y = x
      · subst hxy
        simp only [CharSet.has, beq_self_eq_true, if_true, Option.bind_some, ih,
          List.cons_prefix_cons, true_and, List.length_cons, List.drop_succ_cons, after_cons]
      · simp [CharSet.has, hxy, Ne.symm hxy]

namespace Pattern

/-! ## Occurrences -/

/-- **A pattern that matches just where a text stands under a condition** is found as often as the
text occurs. -/
theorem count_eq_occurrences {p : Pattern} {ok : (before after : Option Char) → Bool} (hs : s ≠ [])
    (h : ∀ c, p.end? c = (c.skip? s).filter fun d => ok c.before d.rest.head?)
    (text : List Char) : p.count text = Text.occurrences s ok text := by
  refine count_eq_length_scanAll (f := Cursor.before) (fun c => ?_) text
  rw [h, skip?_eq]
  show _ = if s ≠ [] ∧ s <+: c.rest ∧ ok c.before (c.rest.drop s.length).head? then _ else _
  by_cases hprefix : s <+: c.rest
  · by_cases hok : ok c.before (c.rest.drop s.length).head?
    · rw [if_pos hprefix, if_pos ⟨hs, hprefix, hok⟩, Option.filter_some]
      exact congrArg (Option.map _) (if_pos hok)
    · rw [if_pos hprefix, if_neg fun hall => hok hall.2.2, Option.filter_some]
      exact congrArg (Option.map _) (if_neg hok)
  · rw [if_neg hprefix, if_neg fun hall => hprefix hall.2.1]
    rfl

theorem count_text (hs : s ≠ []) (t : List Char) :
    (text s).count t = Text.occurrences s (fun _ _ => true) t := by
  refine count_eq_occurrences hs (fun c => ?_) t
  rw [end?_text]
  cases c.skip? s <;> rfl

theorem end?_seq_edge (p : Pattern) (c : Cursor) : (seq edge p).end? c =
    if Text.isWordEdge c.before c.rest.head? then p.end? c else none := by
  have hholds : (Assertion.words .edge Unicode.isWord).holds c.before c.rest.head? =
      Text.isWordEdge c.before c.rest.head? := rfl
  rw [end?, edge, ends_seq_assert, hholds, end?]
  split_ifs <;> rfl

theorem head?_of_skip? {d : Cursor} (hs : s ≠ []) (h : c.skip? s = some d) :
    c.rest.head? = s.head? := by
  obtain ⟨x, xs, rfl⟩ := List.exists_cons_of_ne_nil hs
  rw [(skip?_eq_some h).1]
  rfl

theorem before_of_skip? {d : Cursor} (hs : s ≠ []) (h : c.skip? s = some d) :
    d.before = s.getLast? := by
  rw [skip?_eq] at h
  split_ifs at h
  cases h
  show s.getLast?.or c.before = s.getLast?
  rw [List.getLast?_eq_some_getLast hs]
  rfl

theorem count_edge_text (hs : s ≠ []) (t : List Char) : (seq edge (text s)).count t =
    Text.occurrences s (fun before _ => Text.isWordEdge before s.head?) t := by
  refine count_eq_occurrences hs (fun c => ?_) t
  rw [end?_seq_edge, end?_text]
  cases hskip : c.skip? s with
  | none => simp
  | some d =>
    rw [head?_of_skip? hs hskip]
    by_cases hedge : Text.isWordEdge c.before s.head? <;> simp [hedge, Option.filter_some]

theorem count_edge_text_edge (hs : s ≠ []) (t : List Char) :
    (sequence (edge :: chars s ++ [edge])).count t = Text.occurrences s
      (fun before after => Text.isWordEdge before s.head? && Text.isWordEdge s.getLast? after)
      t := by
  refine count_eq_occurrences hs (fun c => ?_) t
  have hstart : follow [c] edge.ends =
      if Text.isWordEdge c.before c.rest.head? then [c] else [] := rfl
  rw [end?, ends_sequence, List.cons_append, List.foldl_cons, hstart, List.foldl_append]
  cases hskip : c.skip? s with
  | none =>
    split_ifs
    · rw [foldl_follow_chars (descending_singleton c), List.filterMap_cons, hskip]
      rfl
    · rw [foldl_follow_chars List.Pairwise.nil]
      rfl
  | some d =>
    rw [head?_of_skip? hs hskip]
    split_ifs with hedge
    · have hstop : follow [d] edge.ends =
          if Text.isWordEdge d.before d.rest.head? then [d] else [] := rfl
      rw [foldl_follow_chars (descending_singleton c), List.filterMap_cons, hskip,
        List.filterMap_nil, List.foldl_cons, List.foldl_nil, hstop, before_of_skip? hs hskip]
      by_cases hback : Text.isWordEdge s.getLast? d.rest.head? <;>
        simp [hedge, hback, Option.filter_some]
    · rw [foldl_follow_chars List.Pairwise.nil]
      simp [hedge, follow, distinct]

/-! ## Places -/

section
variable {p : Pattern} {ok : (before after : Option Char) → Bool}

theorem tryAt_places (h : ∀ c, p.end? c = if ok c.before c.rest.head? then some c else none)
    {last : Option Nat} (hlast : ∀ l ∈ last, l < c.offset) :
    tryAt p.spanAt? last c = if ok c.before c.rest.head? then some (⟨c, c⟩, c) else none := by
  split_ifs with hok
  · refine tryAt_eq_some_iff.mpr ⟨?_, fun l hl => ?_⟩
    · rw [spanAt?, h, if_pos hok]
      rfl
    · have hlt := hlast l hl
      exact ⟨hlt.le, fun _ => hlt.ne⟩
  · refine tryAt_of_eq_none ?_
    rw [spanAt?, h, if_neg hok]
    rfl

theorem length_search_places
    (h : ∀ c, p.end? c = if ok c.before c.rest.head? then some c else none) (rest : List Char) :
    ∀ (last : Option Nat) (offset : Nat) (before : Option Char), (∀ l ∈ last, l < offset) →
      (search p.spanAt? last offset before rest).length = Text.placesFrom ok before rest := by
  -- The induction over the rest of the text: each match leaves room for one at the next place.
  induction rest with
  | nil =>
    intro last offset before hlast
    rw [length_search_nil, tryAt_places h hlast, Text.placesFrom]
    cases hok : ok before none <;> simp [hok]
  | cons x xs ih =>
    intro last offset before hlast
    have hstart := tryAt_places (c := ⟨offset, before, x :: xs⟩) h hlast
    have hnext : ∀ l ∈ lastAfter last (tryAt p.spanAt? last ⟨offset, before, x :: xs⟩),
        l < offset + 1 := by
      intro l hl
      rw [hstart] at hl
      split_ifs at hl
      · obtain rfl : offset = l := Option.some.inj hl
        exact Nat.lt_succ_self _
      · exact Nat.lt_succ_of_lt (hlast l hl)
    rw [length_search_cons, ih _ _ _ hnext, hstart, Text.placesFrom]
    cases hok : ok before (some x) <;> simp [hok]
end

theorem count_eq_places {p : Pattern} {ok : (before after : Option Char) → Bool}
    (h : ∀ c, p.end? c = if ok c.before c.rest.head? then some c else none) (t : List Char) :
    p.count t = Text.places ok t := by
  have hnone : ∀ l ∈ (none : Option Nat), l < 0 := fun l hl => by cases hl
  rw [count_eq_length_search, length_search_places h t none 0 none hnone,
    Text.places_eq_placesFrom]

theorem count_text_nil (t : List Char) : (text []).count t = t.length + 1 := by
  have hplaces : (text []).count t = Text.places (fun _ _ => true) t :=
    count_eq_places (fun _ => rfl) t
  rw [hplaces, Text.places]
  simp

theorem count_edge_edge (t : List Char) :
    (sequence (edge :: chars [] ++ [edge])).count t = Text.places Text.isWordEdge t := by
  refine count_eq_places (fun c => ?_) t
  have hedge : ∀ d, follow [d] edge.ends =
      if Text.isWordEdge d.before d.rest.head? then [d] else [] := fun d => rfl
  rw [end?, ends_sequence]
  show (follow (follow [c] edge.ends) edge.ends).head? = _
  rw [hedge]
  split_ifs with hc
  · rw [hedge, if_pos hc]
    rfl
  · rfl

end Pattern

end Readiness
