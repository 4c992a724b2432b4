import Readiness.Pattern.Parser
import Readiness.Proofs.Pattern.Sequence

/-!
# Quoted texts

The reader takes a quoted text as that text, character by character, whatever characters it has.

* `Pattern.readAll_quote` : the reader on a quoted text before other source.
* `Pattern.parse_quote` : a quoted text is the pattern of the text.
* `Pattern.parse_edge_quote_edge` : the same between two word edges.
-/

namespace Readiness.Pattern

open Unicode

/-! ## The reader -/

/-- The state after more patterns in the current branch. -/
def State.pushAll (st : State) (ps : List Pattern) : State :=
  { st with level := { st.level with pieces := (ps.map .item).reverse ++ st.level.pieces } }

theorem State.pushAll_push (st : State) (p : Pattern) (ps : List Pattern) :
    (st.push (.item p)).pushAll ps = st.pushAll (p :: ps) := by
  simp [State.pushAll, State.push]

theorem State.pushAll_pushAll (st : State) (ps qs : List Pattern) :
    (st.pushAll ps).pushAll qs = st.pushAll (ps ++ qs) := by
  simp [State.pushAll]

theorem readAll_pushAll_nil (fuel : Nat) (ps : List Pattern) :
    readAll (fuel + 1) (State.initial.pushAll ps) [] = .ok (sequence ps) := by
  have hbranch : (Level.branch ⟨[], (ps.map .item).reverse ++ []⟩) = sequence ps := by
    rw [Level.branch, List.append_nil, ← List.map_reverse, List.filterMap_map, sequence]
    exact congrArg seqReversed List.filterMap_some
  rw [← hbranch]
  rfl

theorem readAll_of_readOne {fuel : Nat} {st st' : State} {c : Char} {cs after : List Char}
    (hflags : st.flags = {}) (h : readOne st c cs = .ok (st', after)) :
    readAll (fuel + 1) st (c :: cs) = readAll fuel st' after := by
  have hskip : st.flags.skip (c :: cs) = c :: cs := by
    rw [hflags]
    rfl
  simp only [readAll, hskip, h]
  rfl

/-! ## Characters -/

theorem readOne_of_not_meta {c : Char} (hc : c ∉ metaCharacters) {st : State}
    (hflags : st.flags = {}) (cs : List Char) :
    readOne st c cs = .ok (st.push (.item (.char (.one c))), cs) := by
  unfold readOne
  split
  all_goals try exact absurd (by decide) hc
  rw [hflags]
  rfl

theorem readEscape_of_meta {c : Char} (hc : c ∈ metaCharacters) (cs : List Char) :
    readEscape {} (c :: cs) = .ok (.literal c false, cs) := by
  simp only [metaCharacters, List.mem_cons, List.not_mem_nil, or_false] at hc
  rcases hc with rfl | rfl | rfl | rfl | rfl | rfl | rfl | rfl | rfl | rfl | rfl | rfl | rfl | rfl |
    rfl | rfl | rfl | rfl <;> rfl

/-- **The reader takes a quoted text as the text.** -/
theorem readAll_quote {st : State} (hflags : st.flags = {}) (fuel : Nat) (s rest : List Char) :
    readAll (fuel + s.length) st (quote s ++ rest) = readAll fuel (st.pushAll (chars s)) rest := by
  induction s generalizing st with
  | nil => rfl
  | cons c s ih =>
    have hrest := @ih (st.push (.item (.char (.one c)))) hflags
    rw [State.pushAll_push] at hrest
    rw [List.length_cons, ← Nat.add_assoc, quote, List.flatMap_cons, ← quote, List.append_assoc]
    by_cases hc : c ∈ metaCharacters
    · rw [if_pos (by simpa using hc)]
      refine (readAll_of_readOne hflags ?_).trans hrest
      show readOne st '\\' (c :: (quote s ++ rest)) = _
      rw [readOne, hflags, readEscape_of_meta hc]
      rfl
    · rw [if_neg (by simpa using hc)]
      exact (readAll_of_readOne hflags (readOne_of_not_meta hc hflags _)).trans hrest

/-! ## Quoted texts -/

theorem length_le_length_quote (s : List Char) : s.length ≤ (quote s).length := by
  induction s with
  | nil => exact Nat.le_refl _
  | cons c s ih =>
    rw [quote, List.flatMap_cons, ← quote, List.length_append, List.length_cons]
    split_ifs <;> simp <;> omega

/-- **A quoted text is read as the pattern of the text.** -/
theorem parse_quote (s : List Char) : parse (quote s) = .ok (text s) := by
  obtain ⟨k, hk⟩ := Nat.exists_eq_add_of_le' (length_le_length_quote s)
  have h := @readAll_quote .initial rfl (k + 1) s []
  rw [readAll_pushAll_nil, List.append_nil] at h
  rw [parse, hk, Nat.add_right_comm, h]
  rfl

/-- The condition that a word begins or ends at a place. -/
def edge : Pattern := .assert (.words .edge isWord)

theorem readAll_edge {st : State} (hflags : st.flags = {}) (fuel : Nat) {cs : List Char}
    (hcs : cs.head? ≠ some '\x7b') :
    readAll (fuel + 1) st ('\\' :: 'b' :: cs) = readAll fuel (st.pushAll [edge]) cs := by
  have hedge : readEdge {} cs = .ok (.edge, cs) := by
    unfold readEdge
    split
    · exact absurd rfl hcs
    · rfl
  have hescape : readEscape {} ('b' :: cs) =
      (readEdge {} cs).bind fun r => .ok (.assert (.words r.1 isWord), r.2) := rfl
  refine readAll_of_readOne hflags ?_
  show readOne st '\\' ('b' :: cs) = _
  rw [readOne, hflags, hescape, hedge]
  rfl

theorem head?_quote_append (s : List Char) {rest : List Char} (h : rest.head? ≠ some '\x7b') :
    (quote s ++ rest).head? ≠ some '\x7b' := by
  cases s with
  | nil => exact h
  | cons c s =>
    rw [quote, List.flatMap_cons]
    split_ifs with hc
    · simp
    · rintro heq
      rw [List.singleton_append, List.cons_append, List.head?_cons, Option.some.injEq] at heq
      subst heq
      exact hc (by decide)

/-- **A quoted text between word edges** is read as the sequence of these. -/
theorem parse_edge_quote_edge (s : List Char) :
    parse ('\\' :: 'b' :: quote s ++ ['\\', 'b']) = .ok (sequence (edge :: chars s ++ [edge])) := by
  obtain ⟨k, hk⟩ := Nat.exists_eq_add_of_le' (length_le_length_quote s)
  have hbody : quote s ++ ['\\', 'b'] = quote s ++ '\\' :: 'b' :: [] := rfl
  rw [parse, List.cons_append, List.cons_append, hbody]
  have hlength : ('\\' :: 'b' :: (quote s ++ '\\' :: 'b' :: [])).length + 1 =
      (k + 2 + 1 + 1 + s.length) + 1 := by
    simp [hk]
    omega
  rw [hlength, readAll_edge rfl _ (head?_quote_append s (by decide)), readAll_quote rfl,
    readAll_edge rfl _ (by decide), State.pushAll_pushAll, State.pushAll_pushAll,
    readAll_pushAll_nil]
  rfl

end Readiness.Pattern
