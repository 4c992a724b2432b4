import Readiness.Proofs.Pattern.Enclosed.Element
import Readiness.Proofs.Pattern.Occurrences

/-!
# Texts within a group

A text that can be read within parentheses need not be a pattern: it may close the group around it.
If it does not, then it is a pattern, and the group has just this pattern.

* `Pattern.readOne_within` : one element within one more group.
* `Pattern.readAll_within` : a text up to the parenthesis that closes the group.
* `Pattern.parse_of_enclosed` : texts in a group behind a word edge.
-/

namespace Readiness.Pattern

variable {s s' : State} {b : Flags × Level} {cs rest : List Char}

/-! ## One more group -/

/-- The state within one more group, around all the others. -/
def State.within (s : State) (b : Flags × Level) : State := { s with outer := s.outer ++ [b] }

@[simp] theorem State.within_flags (s : State) (b : Flags × Level) :
    (s.within b).flags = s.flags := rfl

@[simp] theorem State.within_level (s : State) (b : Flags × Level) :
    (s.within b).level = s.level := rfl

theorem State.within_outer_ne_nil (s : State) (b : Flags × Level) : (s.within b).outer ≠ [] := by
  simp [within]

theorem bind_eq_map {α β γ : Type} {x : Except Fault α} {k : α → Except Fault γ}
    {k' : α → Except Fault β} {g : β → γ} (h : ∀ a, k a = (k' a).map g) :
    (x >>= k) = (x >>= k').map g := by
  cases x with
  | error e => rfl
  | ok a => exact h a

theorem openNamed_within (s : State) (b : Flags × Level) (cs : List Char) :
    openNamed (s.within b) cs = (openNamed s cs).map fun r => (r.1.within b, r.2) := by
  unfold openNamed
  cases cs.dropWhile (· != '>') with
  | nil => rfl
  | cons c after =>
    dsimp only
    split_ifs <;> simp_all [State.within] <;> rfl

theorem openParen_within (s : State) (b : Flags × Level) (cs : List Char) :
    openParen (s.within b) cs = (openParen s cs).map fun r => (r.1.within b, r.2) := by
  unfold openParen
  rw [State.within_flags]
  split
  all_goals try rfl
  · exact openNamed_within s b _
  · exact openNamed_within s b _
  · refine bind_eq_map fun r => ?_
    dsimp only
    split_ifs <;> rfl

theorem closeParen_within (hs : s.outer ≠ []) (b : Flags × Level) (cs : List Char) :
    closeParen (s.within b) cs = (closeParen s cs).map fun r => (r.1.within b, r.2) := by
  unfold closeParen
  cases houter : s.outer with
  | nil => exact absurd houter hs
  | cons o outer =>
    simp only [State.within, houter, List.cons_append]
    rfl

theorem repeatLast_within (s : State) (b : Flags × Level) (min : Nat) (max : Option Nat)
    (lazy : Bool) :
    repeatLast (s.within b) min max lazy = (repeatLast s min max lazy).map (State.within · b) := by
  unfold repeatLast
  rw [State.within_level]
  split <;> rfl

theorem repeatSign_within (s : State) (b : Flags × Level) (min : Nat) (max : Option Nat)
    (cs : List Char) :
    repeatSign (s.within b) min max cs =
      (repeatSign s min max cs).map fun r => (r.1.within b, r.2) := by
  unfold repeatSign
  split
  all_goals
    rw [repeatLast_within]
    cases repeatLast s min max _ <;> rfl

theorem repeatBounds_within (s : State) (b : Flags × Level) (cs : List Char) :
    repeatBounds (s.within b) cs = (repeatBounds s cs).map fun r => (r.1.within b, r.2) := by
  unfold repeatBounds
  rw [State.within_level, State.within_flags]
  split
  · exact bind_eq_map fun r => repeatSign_within s b _ _ _
  · rfl

/-- **One element** is read in the same way within one more group, unless it closes that group. -/
theorem readOne_within {c : Char} (hs : c ≠ ')' ∨ s.outer ≠ []) (b : Flags × Level)
    (cs : List Char) :
    readOne (s.within b) c cs = (readOne s c cs).map fun r => (r.1.within b, r.2) := by
  unfold readOne
  split
  · exact openParen_within s b cs
  · exact closeParen_within (hs.resolve_left (by simp)) b cs
  · rfl
  · exact bind_eq_map fun r => rfl
  · exact repeatSign_within s b _ _ _
  · exact repeatSign_within s b _ _ _
  · exact repeatSign_within s b _ _ _
  · exact repeatBounds_within s b cs
  · exact bind_eq_map fun r => bind_eq_map fun p => rfl
  · exact bind_eq_map fun set => rfl
  · rfl
  · rfl
  · exact bind_eq_map fun p => rfl

/-! ## Whole texts -/

theorem readAll_ne_ok_of_leavesBrace {n : Nat} {p : Pattern} (h : LeavesBrace s.flags cs) :
    readAll n s cs ≠ .ok p := by
  obtain ⟨ds, rfl, hds⟩ := h
  intro hread
  cases n with
  | zero => cases hread
  | succ n =>
    have hskip : s.flags.skip ('\x7b' :: ds) = '\x7b' :: ds := by
      unfold Flags.skip
      split_ifs <;> rfl
    simp only [readAll, hskip] at hread
    obtain ⟨⟨t, after⟩, hone, -⟩ := bind_eq_ok.mp hread
    have hbounds : readBounds s.flags ds = .error .badBounds := by
      rw [readBounds_eq, hds]
      rfl
    simp only [readOne, repeatBounds, hbounds] at hone
    split at hone <;> cases hone

theorem readAll_nil_ne_ok {n : Nat} {p : Pattern} (h : s.outer ≠ []) :
    readAll n s [] ≠ .ok p := by
  intro hread
  cases n with
  | zero => cases hread
  | succ n =>
    simp only [readAll, s.flags.skip_nil] at hread
    simp [h] at hread

/-- The pattern of a group whose content is `q` and that begins at the level `l`. -/
def Level.around (l : Level) (q : Pattern) : Pattern :=
  Level.close { l with pieces := .item q :: l.pieces }

theorem eq_around_of_readAll {n : Nat} {t : State} {mid : List Char} {p : Pattern}
    (houter : s.outer = []) (hone : readOne (s.within b) ')' [] = .ok (t, mid))
    (hread : readAll n t mid = .ok p) : p = b.2.around s.level.close := by
  simp only [readOne, closeParen, State.within, houter, List.nil_append] at hone
  cases hone
  cases n with
  | zero => cases hread
  | succ n =>
    simp only [readAll, Flags.skip_nil] at hread
    cases hread
    rfl

/-- **A text up to the parenthesis that closes the group** is read as without the group, or closes
the group before. The induction is over the elements of the text. -/
theorem readAll_within {n m : Nat} {p : Pattern}
    (h : readAll n (s.within b) (cs ++ [')']) = .ok p) (hm : cs.length < m) :
    (∃ q, readAll m s cs = .ok q ∧ p = b.2.around q) ∨
      readAll m s cs = .error .unopenedGroup := by
  induction n generalizing m s cs with
  | zero => cases h
  | succ n ih =>
    obtain ⟨m, rfl⟩ : ∃ k, m = k + 1 := ⟨m - 1, by omega⟩
    have hlength := (s.flags.skip_suffix cs).length_le
    rw [readAll, State.within_flags] at h
    rcases s.flags.skip_paren cs with hskip | hskip
    · simp [hskip, State.within_outer_ne_nil] at h
    rw [hskip] at h
    cases hcs : s.flags.skip cs with
    | nil =>
      -- The parenthesis is next. It must close the last group, since nothing follows.
      rw [hcs] at h
      obtain ⟨⟨t, mid⟩, hone, hrest⟩ := bind_eq_ok.mp h
      by_cases houter : s.outer = []
      · refine .inl ⟨s.level.close, by simp [readAll, hcs, houter], ?_⟩
        exact eq_around_of_readAll houter hone hrest
      · rw [readOne_within (.inr houter)] at hone
        obtain ⟨⟨t, mid⟩, ht, heq⟩ := map_eq_ok.mp hone
        cases heq
        have hmid : mid = [] := by
          simp only [readOne, closeParen] at ht
          split at ht <;> cases ht
          rfl
        subst hmid
        exact absurd hrest (readAll_nil_ne_ok (t.within_outer_ne_nil b))
    | cons c ds =>
      rw [hcs, List.length_cons] at hlength
      rw [hcs] at h
      obtain ⟨⟨t, mid⟩, hone, hrest⟩ := bind_eq_ok.mp h
      by_cases hclose : c = ')' ∧ s.outer = []
      · obtain ⟨rfl, houter⟩ := hclose
        refine .inr ?_
        simp only [readAll, hcs, readOne, closeParen, houter]
        rfl
      rw [readOne_within (by tauto)] at hone
      obtain ⟨⟨t, mid⟩, ht, heq⟩ := map_eq_ok.mp hone
      cases heq
      -- An element that takes the last parenthesis leaves the group open.
      have hmid : mid ≠ [] := by
        rintro rfl
        exact readAll_nil_ne_ok (t.within_outer_ne_nil b) hrest
      rcases readsAlone_readOne ht hmid with ⟨after, hafter, rfl, halone⟩ | hbrace
      · have hread : readAll (m + 1) s cs = readAll m t after := by
          simp only [readAll, hcs, halone]
          rfl
        rw [hread]
        have hle := hafter.length_le
        exact ih hrest (by omega)
      · exact absurd hrest (readAll_ne_ok_of_leavesBrace hbrace)

/-- **A group behind a word edge.** If a text can be read within it, then the text is a pattern and
the group is a match of it at a word edge, or the text closes a group that it does not open. -/
theorem parse_of_enclosed {p : Pattern}
    (h : parse ('\\' :: 'b' :: '(' :: '?' :: ':' :: (cs ++ [')'])) = .ok p) :
    (∃ q, parse cs = .ok q ∧ p = .seq edge q) ∨ parse cs = .error .unopenedGroup := by
  have hlength : ('\\' :: 'b' :: '(' :: '?' :: ':' :: (cs ++ [')'])).length + 1 =
      cs.length + 5 + 1 + 1 := by
    simp
  have hgroup : readOne (State.initial.pushAll [edge]) '(' ('?' :: ':' :: (cs ++ [')'])) =
      .ok (State.initial.within ({}, ⟨[], [.item edge]⟩), cs ++ [')']) := rfl
  rw [parse, hlength, readAll_edge rfl _ (by simp), readAll_of_readOne rfl hgroup] at h
  exact readAll_within h (Nat.lt_succ_self _)

theorem ofSource_of_enclosed {p : Pattern}
    (h : ofSource ('\\' :: 'b' :: '(' :: '?' :: ':' :: (cs ++ [')'])) = .ok p) :
    (∃ q, ofSource cs = .ok q ∧ p = .seq edge q) ∨ ofSource cs = .error .unopenedGroup := by
  unfold ofSource at h ⊢
  obtain ⟨p', hparse, h⟩ := bind_eq_ok.mp h
  split_ifs at h with hweight
  cases h
  rcases parse_of_enclosed hparse with ⟨q, hq, rfl⟩ | herror
  · have hle : q.weight ≤ weightLimit := by
      simp only [weight] at hweight
      omega
    refine .inl ⟨q, ?_, rfl⟩
    rw [hq]
    exact if_pos hle
  · rw [herror]
    exact .inr rfl

end Readiness.Pattern
