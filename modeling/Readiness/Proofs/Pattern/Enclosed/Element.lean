import Readiness.Proofs.Pattern.Enclosed.Class

/-!
# Elements before a closing parenthesis

What the reader takes for one element of a pattern is the same without a closing parenthesis behind
the text, unless it takes the parenthesis too. The one other exception is a word edge before an
opening brace with nothing behind it, which the reader refuses at the next element.

* `Pattern.readsAlone_openParen` : the beginnings of groups, and flags.
* `Pattern.readsAlone_repeatBounds` : repetitions.
* `Pattern.readsAlone_readOne` : elements.
-/

namespace Readiness.Pattern

variable {α : Type} {f : Flags} {s s' : State} {cs ds rest : List Char}

/-! ## Groups -/

theorem readsAlone_readFlags {used : List Char} {r : Flags × List Char × Char}
    (h : readFlags used f (cs ++ [')']) = .ok (r, rest)) (hrest : rest ≠ []) :
    ReadsAlone (readFlags used f cs) cs r rest := by
  induction cs generalizing used f with
  | nil =>
    rw [List.nil_append, readFlags, if_pos (by decide)] at h
    split_ifs at h
    cases h
    exact absurd rfl hrest
  | cons c cs ih =>
    have hsuffix := List.suffix_cons c cs
    simp only [List.cons_append, readFlags] at h ⊢
    split_ifs at h ⊢
    · cases h
      exact .now _ hsuffix
    · exact (ih h).mono hsuffix
    · split at h
      · exact (ih h).mono hsuffix
      · cases h

theorem readsAlone_openNamed (h : openNamed s (cs ++ [')']) = .ok (s', rest)) :
    ReadsAlone (openNamed s cs) cs s' rest := by
  have hsuffix : cs.dropWhile (· != '>') <:+ cs := List.dropWhile_suffix _
  unfold openNamed at h ⊢
  rcases dropWhile_ne_paren (c := '>') (by decide) cs with ⟨-, hdrop⟩ |
    ⟨after, halone, hdrop, htake⟩
  · simp [hdrop] at h
  rw [halone] at hsuffix
  rw [hdrop, htake] at h
  rw [halone]
  dsimp only at h ⊢
  split_ifs at h ⊢
  cases h
  exact .now _ ((List.suffix_cons _ after).trans hsuffix)

theorem openParen_named (hcs : s.flags.skip cs = '?' :: '<' :: ds) (heq : ∀ r, ds ≠ '=' :: r)
    (hne : ∀ r, ds ≠ '!' :: r) : openParen s cs = openNamed s ds := by
  simp only [openParen, hcs]

theorem openParen_flags (hcs : s.flags.skip cs = '?' :: ds) (heq : ∀ r, ds ≠ '=' :: r)
    (hne : ∀ r, ds ≠ '!' :: r) (hname : ∀ r, ds ≠ '<' :: r) (hname' : ∀ r, ds ≠ 'P' :: '<' :: r) :
    openParen s cs = readFlags [] s.flags ds >>= fun r =>
      if r.1.2.2 == ':' then .ok (s.openGroup r.1.1, r.2)
      else if r.1.2.1.isEmpty then .error .badFlags
      else .ok ({ s.push .flags with flags := r.1.1 }, r.2) := by
  simp only [openParen, hcs]
  split
  all_goals simp_all

theorem openParen_group (hcs : ∀ r, s.flags.skip cs ≠ '?' :: r) :
    openParen s cs = .ok (s.openGroup s.flags, s.flags.skip cs) := by
  unfold openParen
  split
  all_goals simp_all

theorem readsAlone_openQuestion (hcs : s.flags.skip cs = '?' :: ds)
    (hskip : s.flags.skip (cs ++ [')']) = '?' :: (ds ++ [')']))
    (h : openParen s (cs ++ [')']) = .ok (s', rest)) (hrest : rest ≠ []) :
    ReadsAlone (openParen s cs) ds s' rest := by
  by_cases heq : ∃ r, ds = '=' :: r
  · obtain ⟨r, rfl⟩ := heq
    simp [openParen, hskip] at h
  by_cases hne : ∃ r, ds = '!' :: r
  · obtain ⟨r, rfl⟩ := hne
    simp [openParen, hskip] at h
  by_cases hname : ∃ r, ds = '<' :: r
  · obtain ⟨r, rfl⟩ := hname
    by_cases hback : ∃ t, r = '=' :: t
    · obtain ⟨t, rfl⟩ := hback
      simp [openParen, hskip] at h
    by_cases hback' : ∃ t, r = '!' :: t
    · obtain ⟨t, rfl⟩ := hback'
      simp [openParen, hskip] at h
    push Not at hback hback'
    rw [openParen_named hskip (append_paren_ne_cons hback (by decide))
      (append_paren_ne_cons hback' (by decide))] at h
    rw [openParen_named hcs hback hback']
    exact (readsAlone_openNamed h).mono (List.suffix_cons _ r)
  by_cases hname' : ∃ r, ds = 'P' :: '<' :: r
  · obtain ⟨r, rfl⟩ := hname'
    simp only [openParen, hskip, List.cons_append] at h
    simp only [openParen, hcs]
    exact (readsAlone_openNamed h).mono ((List.suffix_cons _ r).trans (List.suffix_cons _ _))
  push Not at heq hne hname hname'
  have hname'' : ∀ r, ds ++ [')'] ≠ 'P' :: '<' :: r := by
    intro r hr
    obtain ⟨t, ht, hr⟩ := eq_cons_of_append_paren hr (by decide)
    obtain ⟨u, hu, -⟩ := eq_cons_of_append_paren hr.symm (by decide)
    exact hname' u (by rw [ht, hu])
  rw [openParen_flags hskip (append_paren_ne_cons heq (by decide))
    (append_paren_ne_cons hne (by decide)) (append_paren_ne_cons hname (by decide)) hname''] at h
  rw [openParen_flags hcs heq hne hname hname']
  obtain ⟨⟨r, after⟩, hflags, h⟩ := bind_eq_ok.mp h
  dsimp only at h
  split_ifs at h with hstop hused
  · cases h
    exact (readsAlone_readFlags hflags hrest).bind fun after => by simp [hstop]
  · cases h
    exact (readsAlone_readFlags hflags hrest).bind fun after => by simp [hstop, hused]

theorem readsAlone_openParen (h : openParen s (cs ++ [')']) = .ok (s', rest)) (hrest : rest ≠ []) :
    ReadsAlone (openParen s cs) cs s' rest := by
  have hsuffix := s.flags.skip_suffix cs
  rcases s.flags.skip_paren cs with hskip | hskip
  · rw [openParen_group (by simp [hskip]), hskip] at h
    cases h
    exact absurd rfl hrest
  by_cases hquestion : ∃ ds, s.flags.skip cs = '?' :: ds
  · obtain ⟨ds, hcs⟩ := hquestion
    rw [hcs] at hsuffix
    rw [hcs, List.cons_append] at hskip
    exact (readsAlone_openQuestion hcs hskip h hrest).mono ((List.suffix_cons _ ds).trans hsuffix)
  · push Not at hquestion
    have hquestion' : ∀ r, s.flags.skip (cs ++ [')']) ≠ '?' :: r := by
      rw [hskip]
      exact append_paren_ne_cons hquestion (by decide)
    rw [openParen_group hquestion', hskip] at h
    rw [openParen_group hquestion]
    cases h
    exact .now _ hsuffix

theorem readsAlone_closeParen (h : closeParen s (cs ++ [')']) = .ok (s', rest)) :
    ReadsAlone (closeParen s cs) cs s' rest := by
  unfold closeParen at h ⊢
  split at h
  · cases h
  · cases h
    exact .now _ List.suffix_rfl

/-! ## Repetitions -/

theorem readsAlone_repeatSign {min : Nat} {max : Option Nat}
    (h : repeatSign s min max (cs ++ [')']) = .ok (s', rest)) :
    ReadsAlone (repeatSign s min max cs) cs s' rest := by
  by_cases hlazy : ∃ ds, cs = '?' :: ds
  · obtain ⟨ds, rfl⟩ := hlazy
    obtain ⟨t, ht, heq⟩ := map_eq_ok.mp h
    cases heq
    simp only [repeatSign, ht]
    exact .now _ (List.suffix_cons _ ds)
  · push Not at hlazy
    have hread : ∀ ds, (∀ r, ds ≠ '?' :: r) → repeatSign s min max ds =
        (repeatLast s min max false).map fun s => (s, ds) := by
      intro ds hds
      unfold repeatSign
      split
      · exact absurd rfl (hds _)
      · rfl
    rw [hread _ (append_paren_ne_cons hlazy (by decide))] at h
    rw [hread _ hlazy]
    obtain ⟨t, ht, heq⟩ := map_eq_ok.mp h
    cases heq
    rw [ht]
    exact .now _ List.suffix_rfl

/-- The bounds, from the first one and from what is read of the second. -/
def boundsUpTo (n : Nat) : Option Nat × List Char → Except Fault ((Nat × Option Nat) × List Char)
  | (some m, '\x7d' :: after) => if n ≤ m then .ok ((n, some m), after) else .error .badBounds
  | _ => .error .badBounds

/-- The bound after the comma, if there is one, and the closing brace. -/
def readUpper (f : Flags) (n : Nat) (cs : List Char) :
    Except Fault ((Nat × Option Nat) × List Char) :=
  match f.skip cs with
  | '\x7d' :: after => .ok ((n, none), after)
  | rest => readBound f rest >>= boundsUpTo n

/-- What follows the first bound. -/
def readBoundEnd (f : Flags) (min : Option Nat) (cs : List Char) :
    Except Fault ((Nat × Option Nat) × List Char) :=
  match min, cs with
  | some n, ',' :: rest => readUpper f n rest
  | some n, '\x7d' :: after => .ok ((n, some n), after)
  | _, _ => .error .badBounds

theorem readBounds_eq (f : Flags) (cs : List Char) : readBounds f cs =
    readBound f (f.skip cs) >>= fun r => readBoundEnd f r.1 r.2 := by
  unfold readBounds
  congr 1
  funext r
  obtain ⟨min, cs⟩ := r
  dsimp only
  split
  · cases min with
    | none => rfl
    | some n =>
      simp only [readBoundEnd, readUpper]
      split
      · simp_all
      · simp_all
        rfl
      · simp_all
  · cases min <;> rfl
  · cases min with
    | none => simp [readBoundEnd]
    | some n =>
      unfold readBoundEnd
      split <;> simp_all

theorem readUpper_bound (n : Nat) (hcs : ∀ r, f.skip cs ≠ '\x7d' :: r) :
    readUpper f n cs = readBound f (f.skip cs) >>= boundsUpTo n := by
  simp only [readUpper]

theorem readsAlone_readUpper {n : Nat} {b : Nat × Option Nat}
    (h : readUpper f n (cs ++ [')']) = .ok (b, rest)) :
    ReadsAlone (readUpper f n cs) cs b rest := by
  have hsuffix := f.skip_suffix cs
  rcases f.skip_paren cs with hskip | hskip
  · simp [readUpper, boundsUpTo, hskip, readBound, readDigits, bind, Except.bind] at h
  by_cases hclose : ∃ after, f.skip cs = '\x7d' :: after
  · obtain ⟨after, hcs⟩ := hclose
    rw [hcs] at hskip hsuffix
    simp only [readUpper, hskip, List.cons_append] at h
    simp only [readUpper, hcs]
    cases h
    exact .now _ ((List.suffix_cons _ after).trans hsuffix)
  · push Not at hclose
    have hclose' : ∀ r, f.skip (cs ++ [')']) ≠ '\x7d' :: r := by
      rw [hskip]
      exact append_paren_ne_cons hclose (by decide)
    rw [readUpper_bound n hclose', hskip] at h
    rw [readUpper_bound n hclose]
    obtain ⟨⟨max, mid⟩, hbound, h⟩ := bind_eq_ok.mp h
    unfold boundsUpTo at h
    split at h
    · rename_i m after heq
      obtain ⟨rfl, rfl⟩ := Prod.mk.inj heq
      split_ifs at h with hle
      cases h
      obtain ⟨mid, hmid, heq, halone⟩ := readsAlone_readBound hbound (by simp)
      obtain ⟨after, rfl, rfl⟩ := eq_cons_of_append_paren heq.symm (by decide)
      rw [halone]
      refine ⟨after, ((List.suffix_cons _ after).trans hmid).trans hsuffix, rfl, ?_⟩
      exact if_pos hle
    · cases h

theorem readsAlone_readBoundEnd {min : Option Nat} {b : Nat × Option Nat}
    (h : readBoundEnd f min (cs ++ [')']) = .ok (b, rest)) :
    ReadsAlone (readBoundEnd f min cs) cs b rest := by
  unfold readBoundEnd at h
  split at h
  · rename_i n ds heq
    obtain ⟨es, rfl, rfl⟩ := eq_cons_of_append_paren heq (by decide)
    exact (readsAlone_readUpper h).mono (List.suffix_cons _ es)
  · rename_i n ds heq
    obtain ⟨es, rfl, rfl⟩ := eq_cons_of_append_paren heq (by decide)
    cases h
    exact .now _ (List.suffix_cons _ es)
  · cases h

theorem readsAlone_readBounds {b : Nat × Option Nat}
    (h : readBounds f (cs ++ [')']) = .ok (b, rest)) : ReadsAlone (readBounds f cs) cs b rest := by
  rw [readBounds_eq] at h ⊢
  obtain ⟨⟨min, mid⟩, hmin, hend⟩ := bind_eq_ok.mp h
  have hmid : mid ≠ [] := by
    rintro rfl
    cases min <;> cases hend
  rcases f.skip_paren cs with hskip | hskip
  · rw [hskip] at hmin
    simp [readBound, readDigits, hmid.symm] at hmin
  rw [hskip] at hmin
  obtain ⟨after, hafter, rfl, halone⟩ := readsAlone_readBound hmin hmid
  rw [halone]
  exact (readsAlone_readBoundEnd hend).mono (hafter.trans (f.skip_suffix cs))

theorem readsAlone_repeatBounds (h : repeatBounds s (cs ++ [')']) = .ok (s', rest))
    (hrest : rest ≠ []) : ReadsAlone (repeatBounds s cs) cs s' rest := by
  unfold repeatBounds at h ⊢
  split at h
  · obtain ⟨⟨⟨min, max⟩, mid⟩, hbounds, hsign⟩ := bind_eq_ok.mp h
    obtain ⟨after, hafter, rfl, halone⟩ := readsAlone_readBounds hbounds
    dsimp only at hsign
    rcases s.flags.skip_paren after with hskip | hskip
    · rw [hskip] at hsign
      obtain ⟨t, -, heq⟩ := map_eq_ok.mp hsign
      cases heq
      exact absurd rfl hrest
    · rw [hskip] at hsign
      rw [halone]
      exact (readsAlone_repeatSign hsign).mono ((s.flags.skip_suffix after).trans hafter)
  · cases h

/-! ## Elements -/

theorem readsAlone_class {l : ClassLevel} {mid : List Char} {n : Nat} {set : CharSet}
    (hopen : openClass f (cs ++ [')']) = (l, mid)) (h : readClass f n l [] mid = .ok (set, rest))
    (hrest : rest ≠ []) :
    ReadsAlone (readClass f (cs.length + 1) (openClass f cs).1 [] (openClass f cs).2) cs set
      rest := by
  obtain ⟨after, hafter, rfl, halone⟩ := readsAlone_openClass hopen (ne_nil_of_readClass h)
  rw [Except.ok.inj halone]
  exact (readsAlone_readClass h hrest (Nat.lt_succ_of_le hafter.length_le)).mono hafter

theorem readsAlone_push {r : Except Fault α} (p : α → Pattern)
    (h : (r >>= fun a => Except.ok (s.push (.item (p a)), cs ++ [')'])) = .ok (s', rest)) :
    ReadsAlone (r >>= fun a => .ok (s.push (.item (p a)), cs)) cs s' rest := by
  obtain ⟨a, rfl, h⟩ := bind_eq_ok.mp h
  cases h
  exact .now _ List.suffix_rfl

theorem readsAlone_readOne {c : Char} (h : readOne s c (cs ++ [')']) = .ok (s', rest))
    (hrest : rest ≠ []) : ReadsAlone (readOne s c cs) cs s' rest ∨ LeavesBrace s'.flags rest := by
  unfold readOne at h ⊢
  split at h
  · exact .inl (readsAlone_openParen h hrest)
  · exact .inl (readsAlone_closeParen h)
  · cases h
    exact .inl (.now _ List.suffix_rfl)
  · obtain ⟨⟨l, mid⟩, hopen⟩ : ∃ r, openClass s.flags (cs ++ [')']) = r := ⟨_, rfl⟩
    rw [hopen] at h
    obtain ⟨⟨set, after⟩, hset, h⟩ := bind_eq_ok.mp h
    cases h
    exact .inl ((readsAlone_class hopen hset hrest).bind fun after => rfl)
  · exact .inl (readsAlone_repeatSign h)
  · exact .inl (readsAlone_repeatSign h)
  · exact .inl (readsAlone_repeatSign h)
  · exact .inl (readsAlone_repeatBounds h hrest)
  · obtain ⟨⟨a, after⟩, ha, h⟩ := bind_eq_ok.mp h
    obtain ⟨p, hp, h⟩ := bind_eq_ok.mp h
    cases h
    refine (readsAlone_readEscape ha hrest).imp (fun halone => ?_) And.right
    refine halone.bind fun after => ?_
    dsimp only
    rw [hp]
    rfl
  · exact .inl (readsAlone_push .char h)
  · cases h
    exact .inl (.now _ List.suffix_rfl)
  · cases h
    exact .inl (.now _ List.suffix_rfl)
  · exact .inl (readsAlone_push id h)

end Readiness.Pattern
