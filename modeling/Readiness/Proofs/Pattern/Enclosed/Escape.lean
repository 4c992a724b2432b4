import Readiness.Proofs.Pattern.Enclosed.Basic

/-!
# Escapes before a closing parenthesis

Escapes are read in the same way without the parenthesis. The one exception is a word edge before an
opening brace with nothing behind it: the name in the braces is unfinished without the parenthesis,
and with it there is none.

* `Pattern.LeavesBrace` : the exception.
* `Pattern.readsAlone_readEdge`, `Pattern.readsAlone_readProperty` : parts of escapes.
* `Pattern.readsAlone_readEscape` : escapes.
-/

namespace Readiness.Pattern

open Unicode

variable {f : Flags} {cs ds rest : List Char}

/-! ## Names in braces -/

theorem readsAlone_readEdgeName {n m : Nat} {name a : List Char}
    (h : readEdgeName f n name (cs ++ [')']) = .ok (a, rest)) (hrest : rest ≠ [])
    (hm : cs.length < m) : ReadsAlone (readEdgeName f m name cs) cs a rest := by
  induction n generalizing m name cs with
  | zero => simp [readEdgeName] at h
  | succ n ih =>
    obtain ⟨m, rfl⟩ : ∃ k, m = k + 1 := ⟨m - 1, by omega⟩
    cases cs with
    | nil => simp [readEdgeName, isEdgeChar] at h
    | cons c cs =>
      have hlength := (f.skip_suffix cs).length_le
      rw [List.length_cons] at hm
      simp only [List.cons_append, readEdgeName] at h ⊢
      split_ifs at h ⊢ with hname hclose
      · rcases f.skip_paren cs with hskip | hskip
        · rw [hskip] at h
          cases n <;> simp [readEdgeName] at h
        · rw [hskip] at h
          exact (ih h (by omega)).mono (f.skip_suffix_cons c cs)
      · cases h
        exact .now _ (List.suffix_cons c cs)

theorem readsAlone_readBraced {n m : Nat} {name a : List Char}
    (h : readBraced f n name (cs ++ [')']) = .ok (a, rest)) (hrest : rest ≠ [])
    (hm : cs.length < m) : ReadsAlone (readBraced f m name cs) cs a rest := by
  induction n generalizing m name cs with
  | zero => simp [readBraced] at h
  | succ n ih =>
    obtain ⟨m, rfl⟩ : ∃ k, m = k + 1 := ⟨m - 1, by omega⟩
    cases cs with
    | nil =>
      simp only [List.nil_append, readBraced, f.skip_nil] at h
      cases n <;> simp [readBraced] at h
    | cons c cs =>
      have hlength := (f.skip_suffix cs).length_le
      rw [List.length_cons] at hm
      simp only [List.cons_append, readBraced] at h ⊢
      split_ifs at h ⊢ with hclose
      · cases h
        exact .now _ (List.suffix_cons c cs)
      · rcases f.skip_paren cs with hskip | hskip
        · rw [hskip] at h
          cases n <;> simp [readBraced] at h
        · rw [hskip] at h
          exact (ih h (by omega)).mono (f.skip_suffix_cons c cs)

/-- Whether an opening brace is left, with nothing between it and the parenthesis. -/
def LeavesBrace (f : Flags) (rest : List Char) : Prop :=
  ∃ ds, rest = '\x7b' :: ds ∧ f.skip ds = [')']

theorem readsAlone_readEdge {e : WordEdge} (h : readEdge f (cs ++ [')']) = .ok (e, rest))
    (hrest : rest ≠ []) : ReadsAlone (readEdge f cs) cs e rest ∨ LeavesBrace f rest := by
  -- A brace after the letter that has nothing between it and the parenthesis is left for a
  -- repetition. Without the parenthesis it would be an unfinished name.
  cases cs with
  | nil =>
    cases h
    exact .inl (.now _ List.suffix_rfl)
  | cons c cs =>
    by_cases hc : c = '\x7b'
    · subst hc
      rw [List.cons_append, readEdge] at h
      rw [readEdge]
      rcases f.skip_paren cs with hskip | hskip
      · simp [hskip] at h
      · cases hcs : f.skip cs with
        | nil =>
          -- No name begins with the parenthesis, so the brace is left for a repetition.
          rw [hskip, hcs] at h
          cases h
          exact .inr ⟨cs ++ [')'], rfl, by rw [hskip, hcs]; rfl⟩
        | cons d more =>
          have hsuffix : d :: more <:+ '\x7b' :: cs :=
            hcs ▸ (f.skip_suffix cs).trans (List.suffix_cons _ _)
          rw [hskip, hcs] at h
          simp only [List.cons_append] at h
          refine .inl ?_
          dsimp only
          split_ifs at h ⊢ with hd
          · obtain ⟨⟨name, after⟩, hname, h⟩ := bind_eq_ok.mp h
            dsimp only at h
            cases hedge : wordEdge? (String.ofList name) with
            | none => simp [hedge] at h
            | some e' =>
              rw [hedge] at h
              cases h
              have halone : ReadsAlone (readEdgeName f (more.length + 2) [] (d :: more)) (d :: more)
                  name rest := readsAlone_readEdgeName hname hrest (by simp)
              refine (halone.mono hsuffix).bind fun after => ?_
              simp only [hedge]
          · cases h
            exact .now _ List.suffix_rfl
    · have hother : ∀ ds, readEdge f (c :: ds) = .ok (.edge, c :: ds) := by
        intro ds
        unfold readEdge
        split
        · rename_i heq
          exact absurd (List.cons.inj heq).1 hc
        · rfl
      rw [List.cons_append, hother] at h
      rw [hother]
      cases h
      exact .inl (.now _ List.suffix_rfl)

/-- The set of a property, or of the characters without it. -/
def propertySet (f : Flags) (negated : Bool) (r : Bool × (Char → Bool)) : Except Fault CharSet :=
  if !f.unicode then .error .notText
  else
    let set : CharSet := if f.ignoreCase then .folded (.having r.2) else .having r.2
    .ok (if r.1 == negated then .compl set else set)

theorem readProperty_braces {negated : Bool} (hcs : f.skip cs = '\x7b' :: ds) :
    readProperty f negated cs = readBraced f (ds.length + 1) [] (f.skip ds) >>= fun r =>
      (namedProperty r.1 >>= propertySet f negated).map fun s => (s, r.2) := by
  unfold readProperty
  rw [hcs]
  refine congrArg _ (funext fun r => ?_)
  dsimp only
  cases namedProperty r.1 with
  | error e => rfl
  | ok p =>
    show _ = (propertySet f negated p).map _
    unfold propertySet
    cases f.unicode <;> rfl

theorem readProperty_letter {negated : Bool} {c : Char} (hcs : f.skip cs = c :: ds)
    (hc : c ≠ '\x7b') : readProperty f negated cs = if c == '\\' then .error .badEscape else
      match property? [c] with
      | some p => (propertySet f negated (true, p)).map (·, f.skip ds)
      | none => .error .unknownProperty := by
  unfold readProperty propertySet
  simp only [hcs]
  split_ifs
  · rfl
  all_goals cases property? [c] <;> rfl

theorem readsAlone_readProperty {negated : Bool} {s : CharSet}
    (h : readProperty f negated (cs ++ [')']) = .ok (s, rest)) (hrest : rest ≠ []) :
    ReadsAlone (readProperty f negated cs) cs s rest := by
  rcases f.skip_paren cs with hskip | hskip
  · simp [readProperty, hskip] at h
  cases hcs : f.skip cs with
  | nil =>
    rw [hcs] at hskip
    rw [readProperty_letter hskip (by decide), if_neg (by decide), f.skip_nil] at h
    cases hletter : property? [')'] with
    | none => simp [hletter] at h
    | some p =>
      rw [hletter] at h
      obtain ⟨s', -, heq⟩ := map_eq_ok.mp h
      exact absurd (Prod.mk.inj heq).2.symm hrest
  | cons c more =>
    rw [hcs, List.cons_append] at hskip
    have hmore : f.skip more <:+ cs :=
      (f.skip_suffix_cons c more).trans (hcs ▸ f.skip_suffix cs)
    by_cases hc : c = '\x7b'
    · subst hc
      rw [readProperty_braces hskip] at h
      rw [readProperty_braces hcs]
      refine ReadsAlone.bind_map (g := fun name => namedProperty name >>= propertySet f negated)
        (k := id) h fun name hname => ?_
      rcases f.skip_paren more with hskip' | hskip'
      · rw [hskip'] at hname
        simp [readBraced] at hname
      · rw [hskip'] at hname
        have hlength := (f.skip_suffix more).length_le
        exact (readsAlone_readBraced hname hrest (Nat.lt_succ_of_le hlength)).mono hmore
    · rw [readProperty_letter hskip hc] at h
      rw [readProperty_letter hcs hc]
      split_ifs at h ⊢ with hslash
      cases hletter : property? [c] with
      | none => simp [hletter] at h
      | some p =>
        simp only [hletter] at h ⊢
        obtain ⟨s', hs', heq⟩ := map_eq_ok.mp h
        cases heq
        rcases f.skip_paren more with hskip' | hskip'
        · exact absurd hskip' hrest
        · rw [hskip', hs']
          exact .now _ hmore

theorem readEscape_letter {c : Char} (hhex : ¬(c == 'x' || c == 'u' || c == 'U') = true)
    (hproperty : ¬(c == 'p' || c == 'P') = true) (hedge : c ≠ 'b') (cs : List Char) :
    readEscape f (c :: cs) = (readEscape f [c]).map fun r => (r.1, cs) := by
  by_cases hdigit : c.isDigit = true
  · simp only [readEscape, if_pos hdigit]
    rfl
  simp only [readEscape, if_neg hdigit, if_neg hhex, if_neg hproperty]
  cases letterClass? f c with
  | some s => rfl
  | none =>
    cases letterClass? f c.toLower with
    | some s => cases f.unicode <;> rfl
    | none =>
      cases metaCharacters.contains c with
      | true => rfl
      | false =>
        dsimp only
        simp only [Bool.false_eq_true, if_false]
        split
        all_goals try rfl
        · exact absurd rfl hedge
        · split_ifs <;> rfl

theorem readEscape_hexBraced {c : Char} (hdigit : ¬c.isDigit = true)
    (hhex : (c == 'x' || c == 'u' || c == 'U') = true) (hcs : f.skip cs = '\x7b' :: ds) :
    readEscape f (c :: cs) = readHexBraced f (ds.length + 1) none (f.skip ds) >>= fun r =>
      (scalar r.1).map fun v => (.literal v false, r.2) := by
  simp only [readEscape, if_neg hdigit, if_pos hhex, hcs]
  rfl

theorem readEscape_hexFixed {c : Char} (hdigit : ¬c.isDigit = true)
    (hhex : (c == 'x' || c == 'u' || c == 'U') = true) (hcs : ∀ ds, f.skip cs ≠ '\x7b' :: ds) :
    readEscape f (c :: cs) =
      readHexFixed f (if c == 'x' then 2 else if c == 'u' then 4 else 8) 0 (f.skip cs) >>= fun r =>
        (scalar r.1).map fun v => (.literal v (c == 'x'), r.2) := by
  simp only [readEscape, if_neg hdigit, if_pos hhex]
  rfl

theorem readsAlone_readEscape_hex {c : Char} {a : Atom} (hdigit : ¬c.isDigit = true)
    (hhex : (c == 'x' || c == 'u' || c == 'U') = true)
    (h : readEscape f (c :: (cs ++ [')'])) = .ok (a, rest)) (hrest : rest ≠ []) :
    ReadsAlone (readEscape f (c :: cs)) cs a rest := by
  rcases f.skip_paren cs with hskip | hskip
  · rw [readEscape_hexFixed hdigit hhex (by simp [hskip]), hskip] at h
    obtain ⟨⟨n, after⟩, hn, -⟩ := bind_eq_ok.mp h
    split_ifs at hn <;> simp [readHexFixed] at hn
  by_cases hbrace : ∃ ds, f.skip cs = '\x7b' :: ds
  · obtain ⟨ds, hcs⟩ := hbrace
    have hds : f.skip ds <:+ cs :=
      (f.skip_suffix_cons _ ds).trans (hcs ▸ f.skip_suffix cs)
    rw [hcs, List.cons_append] at hskip
    rw [readEscape_hexBraced hdigit hhex hskip] at h
    rw [readEscape_hexBraced hdigit hhex hcs]
    refine .bind_map h fun n hn => ?_
    rcases f.skip_paren ds with hskip' | hskip'
    · rw [hskip'] at hn
      simp [readHexBraced] at hn
    · rw [hskip'] at hn
      have hlength := (f.skip_suffix ds).length_le
      exact (readsAlone_readHexBraced hn hrest (Nat.lt_succ_of_le hlength)).mono hds
  · push Not at hbrace
    have hbrace' : ∀ ds, f.skip (cs ++ [')']) ≠ '\x7b' :: ds := by
      rw [hskip]
      exact append_paren_ne_cons hbrace (by decide)
    rw [readEscape_hexFixed hdigit hhex hbrace', hskip] at h
    rw [readEscape_hexFixed hdigit hhex hbrace]
    exact .bind_map h fun n hn => (readsAlone_readHexFixed hn hrest).mono (f.skip_suffix cs)

theorem readsAlone_readEscape {a : Atom} (h : readEscape f (cs ++ [')']) = .ok (a, rest))
    (hrest : rest ≠ []) :
    ReadsAlone (readEscape f cs) cs a rest ∨ ((∃ w, a = .assert w) ∧ LeavesBrace f rest) := by
  cases cs with
  | nil =>
    have hparen : readEscape f [')'] = .ok (.literal ')' false, []) := by
      unfold readEscape letterClass?
      rfl
    rw [List.nil_append, hparen] at h
    cases h
    exact absurd rfl hrest
  | cons c cs =>
    have hsuffix := List.suffix_cons c cs
    rw [List.cons_append] at h
    by_cases hdigit : c.isDigit = true
    · simp [readEscape, hdigit] at h
    by_cases hhex : (c == 'x' || c == 'u' || c == 'U') = true
    · exact .inl ((readsAlone_readEscape_hex hdigit hhex h hrest).mono hsuffix)
    by_cases hproperty : (c == 'p' || c == 'P') = true
    · simp only [readEscape, if_neg hdigit, if_neg hhex, if_pos hproperty] at h ⊢
      obtain ⟨⟨s, after⟩, hs, h⟩ := bind_eq_ok.mp h
      cases h
      exact .inl (((readsAlone_readProperty hs hrest).mono hsuffix).bind fun _ => rfl)
    by_cases hedge : c = 'b'
    · subst hedge
      have hread : ∀ ds, readEscape f ('b' :: ds) = readEdge f ds >>= fun r =>
          .ok (.assert (.words r.1 f.wordChar), r.2) := fun ds => rfl
      rw [hread] at h ⊢
      obtain ⟨⟨e, after⟩, he, h⟩ := bind_eq_ok.mp h
      cases h
      rcases readsAlone_readEdge he hrest with halone | hbrace
      · exact .inl ((halone.mono hsuffix).bind fun _ => rfl)
      · exact .inr ⟨⟨_, rfl⟩, hbrace⟩
    · rw [readEscape_letter hhex hproperty hedge] at h ⊢
      obtain ⟨⟨a', after⟩, ha, heq⟩ := map_eq_ok.mp h
      cases heq
      rw [ha]
      exact .inl (.now _ hsuffix)

end Readiness.Pattern
