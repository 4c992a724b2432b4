import Readiness.Proofs.Pattern.Enclosed.Escape

/-!
# Classes before a closing parenthesis

A class that ends before a closing parenthesis behind the text is the same class without the
parenthesis. One that does not would take the parenthesis for one of its characters, and have no
closing bracket.

* `Pattern.readsAlone_openClass`, `Pattern.readsAlone_readItem` : the parts of a class.
* `Pattern.readsAlone_readClass` : classes.
-/

namespace Readiness.Pattern

variable {α : Type} {f : Flags} {cs ds rest : List Char}

/-! ## Names -/

/-- Whether the two readings find nothing, or the same with the parenthesis left over by the first
only. -/
def FoundAlone (r r' : Option (α × List Char)) (cs : List Char) : Prop :=
  (r = none ∧ r' = none) ∨
    ∃ a after, after <:+ cs ∧ r = some (a, after ++ [')']) ∧ r' = some (a, after)

theorem FoundAlone.mono {r r' : Option (α × List Char)} (h : FoundAlone r r' cs)
    (hcs : cs <:+ ds) : FoundAlone r r' ds := by
  obtain hnone | ⟨a, after, hafter, hsome⟩ := h
  · exact .inl hnone
  · exact .inr ⟨a, after, hafter.trans hcs, hsome⟩

theorem dropWhile_ne_paren {c : Char} (hc : c ≠ ')') (cs : List Char) :
    (cs.dropWhile (· != c) = [] ∧ (cs ++ [')']).dropWhile (· != c) = []) ∨
      ∃ ds, cs.dropWhile (· != c) = c :: ds ∧
        (cs ++ [')']).dropWhile (· != c) = c :: (ds ++ [')']) ∧
        (cs ++ [')']).takeWhile (· != c) = cs.takeWhile (· != c) := by
  have hparen : (')' != c) = true := by simpa using hc.symm
  induction cs with
  | nil => exact .inl ⟨rfl, by simp [hparen]⟩
  | cons d cs ih =>
    by_cases hd : d = c
    · subst hd
      exact .inr ⟨cs, by simp, by simp, by simp⟩
    · simpa [hd] using ih

/-- The named set after a colon and a caret, if there is one. -/
def readClassName? (negated : Bool) (cs : List Char) : Option (CharSet × List Char) :=
  match cs.dropWhile (· != ':') with
  | ':' :: ']' :: after =>
    (asciiClass? (String.ofList (cs.takeWhile (· != ':')))).map fun s =>
      (if negated then .compl s else s, after)
  | _ => none

theorem readAsciiClass?_name (h : ∀ more, cs ≠ '^' :: more) :
    readAsciiClass? (':' :: cs) = readClassName? false cs := by
  simp only [readAsciiClass?]
  rfl

theorem readAsciiClass?_other (h : ∀ more, cs ≠ ':' :: more) : readAsciiClass? cs = none := by
  simp only [readAsciiClass?]

theorem foundAlone_readClassName? (negated : Bool) (cs : List Char) :
    FoundAlone (readClassName? negated (cs ++ [')'])) (readClassName? negated cs) cs := by
  have hsuffix : cs.dropWhile (· != ':') <:+ cs := List.dropWhile_suffix _
  unfold readClassName?
  rcases dropWhile_ne_paren (c := ':') (by decide) cs with ⟨halone, hdrop⟩ |
    ⟨ds, halone, hdrop, htake⟩
  · rw [halone, hdrop]
    exact .inl ⟨rfl, rfl⟩
  rw [halone] at hsuffix
  rw [halone, hdrop, htake]
  by_cases hend : ∃ after, ds = ']' :: after
  · obtain ⟨after, rfl⟩ := hend
    have hafter : after <:+ cs :=
      ((List.suffix_cons _ _).trans (List.suffix_cons _ _)).trans hsuffix
    simp only [List.cons_append]
    cases asciiClass? (String.ofList (cs.takeWhile (· != ':'))) with
    | none => exact .inl ⟨rfl, rfl⟩
    | some s => exact .inr ⟨_, after, hafter, rfl, rfl⟩
  · push Not at hend
    have hend' := append_paren_ne_cons hend (by decide)
    exact .inl ⟨by split <;> simp_all, by split <;> simp_all⟩

theorem foundAlone_readAsciiClass? (cs : List Char) :
    FoundAlone (readAsciiClass? (cs ++ [')'])) (readAsciiClass? cs) cs := by
  by_cases hcolon : ∃ ds, cs = ':' :: ds
  · obtain ⟨ds, rfl⟩ := hcolon
    by_cases hcaret : ∃ es, ds = '^' :: es
    · obtain ⟨es, rfl⟩ := hcaret
      exact (foundAlone_readClassName? true es).mono
        ((List.suffix_cons _ es).trans (List.suffix_cons _ _))
    · push Not at hcaret
      rw [List.cons_append, readAsciiClass?_name hcaret,
        readAsciiClass?_name (append_paren_ne_cons hcaret (by decide))]
      exact (foundAlone_readClassName? false ds).mono (List.suffix_cons _ ds)
  · push Not at hcolon
    exact .inl ⟨readAsciiClass?_other (append_paren_ne_cons hcolon (by decide)),
      readAsciiClass?_other hcolon⟩

/-! ## The beginning of a class -/

theorem readHyphens_paren {n m : Nat} {l l' : ClassLevel} {any : Bool}
    (h : readHyphens f n l (cs ++ [')']) = (l', any, rest)) (hrest : rest ≠ [])
    (hn : cs.length < n) (hm : cs.length ≤ m) :
    ∃ after, after <:+ cs ∧ rest = after ++ [')'] ∧ readHyphens f m l cs = (l', any, after) := by
  induction n generalizing m l cs any with
  | zero => omega
  | succ n ih =>
    by_cases hhyphen : ∃ ds, cs = '-' :: ds
    · obtain ⟨ds, rfl⟩ := hhyphen
      obtain ⟨m, rfl⟩ : ∃ k, m = k + 1 := ⟨m - 1, by simp at hm; omega⟩
      have hlength := (f.skip_suffix ds).length_le
      rw [List.length_cons] at hn hm
      simp only [List.cons_append, readHyphens] at h ⊢
      rcases f.skip_paren ds with hskip | hskip
      · rw [hskip] at h
        cases n <;> simp [readHyphens, hrest.symm] at h
      · rw [hskip] at h
        obtain ⟨hl, hany, hleft⟩ := Prod.mk.inj h |>.imp_right Prod.mk.inj
        obtain ⟨after, hafter, hrest', hread⟩ :=
          ih (m := m) (Prod.ext hl (Prod.ext rfl hleft)) (by omega) (by omega)
        refine ⟨after, hafter.trans (f.skip_suffix_cons _ ds), hrest', ?_⟩
        rw [hread, hany]
    · push Not at hhyphen
      have hstop : ∀ k ds, (∀ es, ds ≠ '-' :: es) → readHyphens f k l ds = (l, false, ds) := by
        intro k ds hds
        cases k <;> cases ds <;> simp_all [readHyphens]
      have hparen : ∀ es, cs ++ [')'] ≠ '-' :: es := fun es heq =>
        have ⟨ds, hds, _⟩ := eq_cons_of_append_paren heq (by decide)
        hhyphen ds hds
      rw [hstop _ _ hparen] at h
      cases h
      exact ⟨cs, List.suffix_rfl, rfl, hstop _ _ hhyphen⟩

/-- The beginning of a class behind the caret. -/
def openItems (f : Flags) (negated : Bool) (cs : List Char) : ClassLevel × List Char :=
  let (l, any, cs) := readHyphens f cs.length ⟨negated, none, .none⟩ cs
  match any, cs with
  | false, ']' :: more => (l.add (.one ']'), f.skip more)
  | _, cs => (l, cs)

theorem openClass_caret (hcs : f.skip cs = '^' :: ds) :
    openClass f cs = openItems f true (f.skip ds) := by
  unfold openClass openItems
  rw [hcs]
  rfl

theorem openClass_items (hcs : ∀ ds, f.skip cs ≠ '^' :: ds) :
    openClass f cs = openItems f false (f.skip cs) := by
  unfold openClass openItems
  split
  rename_i heq
  split at heq
  · exact absurd ‹_› (hcs _)
  · cases heq
    rfl

theorem openItems_nil (f : Flags) (negated : Bool) :
    openItems f negated [] = (⟨negated, none, .none⟩, []) := rfl

theorem readsAlone_openItems {negated : Bool} {l : ClassLevel}
    (h : openItems f negated (cs ++ [')']) = (l, rest)) (hrest : rest ≠ []) :
    ReadsAlone (.ok (openItems f negated cs)) cs l rest := by
  unfold openItems at h ⊢
  obtain ⟨⟨l', any, mid⟩, hhyphens⟩ :
      ∃ r, readHyphens f (cs ++ [')']).length ⟨negated, none, .none⟩ (cs ++ [')']) = r := ⟨_, rfl⟩
  rw [hhyphens] at h
  by_cases hmid : mid = []
  · subst hmid
    cases any <;> cases h <;> exact absurd rfl hrest
  obtain ⟨after, hafter, rfl, halone⟩ :=
    readHyphens_paren hhyphens hmid (by simp) (Nat.le_refl cs.length)
  rw [halone]
  by_cases hclose : any = false ∧ ∃ more, after = ']' :: more
  · obtain ⟨rfl, more, rfl⟩ := hclose
    have hread : (l'.add (.one ']'), f.skip (more ++ [')'])) = (l, rest) := h
    rcases f.skip_paren more with hskip | hskip
    · rw [hskip] at hread
      exact absurd (Prod.mk.inj hread).2.symm hrest
    · rw [hskip] at hread
      cases hread
      exact .now _ ((f.skip_suffix_cons _ more).trans hafter)
  · have hclose' : ¬(any = false ∧ ∃ more, after ++ [')'] = ']' :: more) := by
      rintro ⟨hany, more, heq⟩
      obtain ⟨es, hes, -⟩ := eq_cons_of_append_paren heq (by decide)
      exact hclose ⟨hany, es, hes⟩
    dsimp only at h ⊢
    split at h
    · exact absurd ⟨rfl, _, ‹_›⟩ hclose'
    split
    · exact absurd ⟨rfl, _, rfl⟩ hclose
    cases h
    exact .now _ hafter

theorem readsAlone_openClass {l : ClassLevel} (h : openClass f (cs ++ [')']) = (l, rest))
    (hrest : rest ≠ []) : ReadsAlone (.ok (openClass f cs)) cs l rest := by
  have hsuffix := f.skip_suffix cs
  rcases f.skip_paren cs with hskip | hskip
  · rw [openClass_items (by simp [hskip]), hskip, openItems_nil] at h
    cases h
    exact absurd rfl hrest
  by_cases hcaret : ∃ ds, f.skip cs = '^' :: ds
  · obtain ⟨ds, hcs⟩ := hcaret
    rw [hcs] at hsuffix
    rw [hcs, List.cons_append] at hskip
    rw [openClass_caret hskip] at h
    rw [openClass_caret hcs]
    rcases f.skip_paren ds with hskip' | hskip'
    · rw [hskip', openItems_nil] at h
      cases h
      exact absurd rfl hrest
    · rw [hskip'] at h
      exact (readsAlone_openItems h hrest).mono
        ((f.skip_suffix_cons _ ds).trans hsuffix)
  · push Not at hcaret
    have hcaret' : ∀ ds, f.skip (cs ++ [')']) ≠ '^' :: ds := by
      rw [hskip]
      exact append_paren_ne_cons hcaret (by decide)
    rw [openClass_items hcaret', hskip] at h
    rw [openClass_items hcaret]
    exact (readsAlone_openItems h hrest).mono hsuffix

/-! ## Items -/

theorem readsAlone_readClassAtom_cons {c : Char} {a : Atom}
    (h : readClassAtom f (c :: (cs ++ [')'])) = .ok (a, rest)) (hrest : rest ≠ []) :
    ReadsAlone (readClassAtom f (c :: cs)) cs a rest ∨ ∃ w, a = .assert w := by
  by_cases hc : c = '\\'
  · subst hc
    have hread : ∀ ds, readClassAtom f ('\\' :: ds) = readEscape f ds := fun ds => rfl
    rw [hread] at h ⊢
    exact (readsAlone_readEscape h hrest).imp_right And.left
  · have hread : ∀ ds, readClassAtom f (c :: ds) = .ok (.literal c false, ds) := by
      intro ds
      unfold readClassAtom
      split
      all_goals simp_all
    rw [hread] at h ⊢
    cases h
    exact .inl (.now _ List.suffix_rfl)

theorem readsAlone_readClassAtom {a : Atom} (h : readClassAtom f (cs ++ [')']) = .ok (a, rest))
    (hrest : rest ≠ []) : ReadsAlone (readClassAtom f cs) cs a rest ∨ ∃ w, a = .assert w := by
  cases cs with
  | nil =>
    cases h
    exact absurd rfl hrest
  | cons c cs =>
    exact (readsAlone_readClassAtom_cons h hrest).imp_left (.mono · (List.suffix_cons c cs))

theorem not_assert_of_item {a : Atom} {s : CharSet} (h : a.item f = .ok s) :
    ¬∃ w, a = .assert w := by
  rintro ⟨w, rfl⟩
  cases h

theorem not_assert_of_rangeEnd {a : Atom} {c : Char} (h : a.rangeEnd f = .ok c) :
    ¬∃ w, a = .assert w := by
  rintro ⟨w, rfl⟩
  cases h

theorem endsItem_paren (cs : List Char) : endsItem (cs ++ [')']) = endsItem cs := by
  cases cs with
  | nil => rfl
  | cons c cs =>
    unfold endsItem
    split <;> simp_all

/-- What follows the first character or escape of an item: the other end of a range, or nothing
that belongs to the item. -/
def readRange (f : Flags) (first : Atom) (cs : List Char) : Except Fault (CharSet × List Char) :=
  match f.skip cs with
  | [] => .error .unclosedClass
  | '-' :: more =>
    if endsItem (f.skip more) then (first.item f).map (·, '-' :: more)
    else readClassAtom f (f.skip more) >>= fun r =>
      first.rangeEnd f >>= fun lo => r.1.rangeEnd f >>= fun hi =>
        if hi < lo then .error .badRange else .ok (.range lo hi, r.2)
  | rest => (first.item f).map (·, rest)

theorem readRange_hyphen (first : Atom) (hcs : f.skip cs = '-' :: ds) : readRange f first cs =
    if endsItem (f.skip ds) then (first.item f).map (·, '-' :: ds)
    else readClassAtom f (f.skip ds) >>= fun r =>
      first.rangeEnd f >>= fun lo => r.1.rangeEnd f >>= fun hi =>
        if hi < lo then .error .badRange else .ok (.range lo hi, r.2) := by
  simp only [readRange, hcs]

theorem readRange_item (first : Atom) (hnil : f.skip cs ≠ []) (hcs : ∀ ds, f.skip cs ≠ '-' :: ds) :
    readRange f first cs = (first.item f).map (·, f.skip cs) := by
  unfold readRange
  split
  · exact absurd ‹_› hnil
  · exact absurd ‹_› (hcs _)
  · rfl

theorem not_assert_of_readRange {first : Atom} {r : CharSet × List Char}
    (h : readRange f first cs = .ok r) : ¬∃ w, first = .assert w := by
  cases hnil : f.skip cs with
  | nil => simp [readRange, hnil] at h
  | cons c ds =>
    by_cases hc : c = '-'
    · subst hc
      rw [readRange_hyphen first hnil] at h
      split_ifs at h
      · obtain ⟨s, hs, -⟩ := map_eq_ok.mp h
        exact not_assert_of_item hs
      · obtain ⟨_, -, h⟩ := bind_eq_ok.mp h
        obtain ⟨lo, hlo, -⟩ := bind_eq_ok.mp h
        exact not_assert_of_rangeEnd hlo
    · rw [readRange_item first (by simp [hnil]) (by simp [hnil, hc])] at h
      obtain ⟨s, hs, -⟩ := map_eq_ok.mp h
      exact not_assert_of_item hs

theorem readsAlone_readRange {first : Atom} {s : CharSet}
    (h : readRange f first (cs ++ [')']) = .ok (s, rest)) (hrest : rest ≠ [])
    (hlast : rest ≠ [')']) : ReadsAlone (readRange f first cs) cs s rest := by
  -- The other end of a range, or an item without one. If just the parenthesis is left, the item
  -- may be unfinished alone.
  have hsuffix := f.skip_suffix cs
  rcases f.skip_paren cs with hskip | hskip
  · simp [readRange, hskip] at h
  by_cases hhyphen : ∃ ds, f.skip cs = '-' :: ds
  · obtain ⟨ds, hcs⟩ := hhyphen
    rw [hcs] at hsuffix
    rw [hcs, List.cons_append] at hskip
    rw [readRange_hyphen first hskip] at h
    rw [readRange_hyphen first hcs]
    have hds : f.skip ds <:+ cs := (f.skip_suffix_cons _ ds).trans hsuffix
    rcases f.skip_paren ds with hskip' | hskip'
    · simp [hskip', endsItem, readClassAtom, bind, Except.bind] at h
    rw [hskip', endsItem_paren] at h
    split_ifs at h ⊢
    · obtain ⟨s', hs', heq⟩ := map_eq_ok.mp h
      cases heq
      rw [hs']
      exact .now _ hsuffix
    · obtain ⟨⟨last, after⟩, hatom, h⟩ := bind_eq_ok.mp h
      obtain ⟨lo, hlo, h⟩ := bind_eq_ok.mp h
      obtain ⟨hi, hhi, h⟩ := bind_eq_ok.mp h
      split_ifs at h with horder
      cases h
      rcases readsAlone_readClassAtom hatom hrest with halone | hassert
      · refine (halone.mono hds).bind fun after => ?_
        simp only [hlo, hhi]
        exact if_neg horder
      · exact absurd hassert (not_assert_of_rangeEnd hhi)
  · push Not at hhyphen
    have hhyphen' : ∀ ds, f.skip (cs ++ [')']) ≠ '-' :: ds := by
      rw [hskip]
      exact append_paren_ne_cons hhyphen (by decide)
    rw [readRange_item first (by simp [hskip]) hhyphen', hskip] at h
    obtain ⟨s', hs', heq⟩ := map_eq_ok.mp h
    cases heq
    have hnil : f.skip cs ≠ [] := fun hnil => hlast (by rw [hnil]; rfl)
    rw [readRange_item first hnil hhyphen, hs']
    exact .now _ hsuffix

theorem readItem_eq (f : Flags) (cs : List Char) :
    readItem f cs = readClassAtom f cs >>= fun r => readRange f r.1 r.2 := rfl

theorem readsAlone_readItem {c : Char} {s : CharSet}
    (h : readItem f (c :: (cs ++ [')'])) = .ok (s, rest)) (hrest : rest ≠ [])
    (hlast : rest ≠ [')']) : ReadsAlone (readItem f (c :: cs)) cs s rest := by
  rw [readItem_eq] at h ⊢
  obtain ⟨⟨first, mid⟩, hfirst, hrange⟩ := bind_eq_ok.mp h
  have hmid : mid ≠ [] := by
    rintro rfl
    simp [readRange, f.skip_nil] at hrange
  rcases readsAlone_readClassAtom_cons hfirst hmid with ⟨after, hafter, rfl, halone⟩ | hassert
  · rw [halone]
    exact (readsAlone_readRange hrange hrest hlast).mono hafter
  · exact absurd hassert (not_assert_of_readRange hrange)

/-! ## Classes -/

/-- The operation on sets that a character and the text after it begin with, if there is one. -/
def classOp? (c : Char) (cs : List Char) : Option (ClassOp × List Char) :=
  match c, cs with
  | '&', '&' :: rest => some (.inter, rest)
  | '-', '-' :: rest => some (.diff, rest)
  | '~', '~' :: rest => some (.symmDiff, rest)
  | _, _ => none

theorem foundAlone_classOp? (c : Char) (cs : List Char) :
    FoundAlone (classOp? c (cs ++ [')'])) (classOp? c cs) cs := by
  cases cs with
  | nil => exact .inl ⟨by simp [classOp?], by simp [classOp?]⟩
  | cons d cs =>
    by_cases hop : classOp? c [d] = none
    · have hnone : ∀ es, classOp? c (d :: es) = none := by
        intro es
        unfold classOp? at hop ⊢
        split <;> simp_all
      exact .inl ⟨hnone _, hnone _⟩
    · have hsome : ∃ op, ∀ es, classOp? c (d :: es) = some (op, es) := by
        unfold classOp? at hop ⊢
        split at hop
        all_goals simp_all
      obtain ⟨op, hop⟩ := hsome
      exact .inr ⟨op, cs, List.suffix_cons d cs, hop _, hop _⟩

section
variable {n : Nat} {l : ClassLevel} {outer : List ClassLevel}

theorem readClass_nil (hcs : f.skip cs = []) :
    readClass f n l outer cs = .error .unclosedClass := by
  cases n with
  | zero => rfl
  | succ n => simp only [readClass, hcs]

theorem readClass_name {s : CharSet} {es : List Char} (hcs : f.skip cs = '[' :: ds)
    (hname : readAsciiClass? ds = some (s, es)) :
    readClass f (n + 1) l outer cs = readClass f n (l.add s) outer es := by
  simp only [readClass, hcs, hname]

theorem readClass_open (hcs : f.skip cs = '[' :: ds) (hname : readAsciiClass? ds = none) :
    readClass f (n + 1) l outer cs =
      readClass f n (openClass f ds).1 (l :: outer) (openClass f ds).2 := by
  simp only [readClass, hcs, hname]

theorem readClass_last (hcs : f.skip cs = ']' :: ds) :
    readClass f (n + 1) l [] cs = (l.close f).map (·, ds) := by
  simp only [readClass, hcs]
  rfl

theorem readClass_close {o : ClassLevel} (hcs : f.skip cs = ']' :: ds) :
    readClass f (n + 1) l (o :: outer) cs =
      l.close f >>= fun s => readClass f n (o.add s) outer ds := by
  simp only [readClass, hcs]

theorem readClass_op {c : Char} {es : List Char} {op : ClassOp} (hcs : f.skip cs = c :: ds)
    (hop : classOp? c ds = some (op, es)) :
    readClass f (n + 1) l outer cs = readClass f n (l.operate f op) outer es := by
  unfold classOp? at hop
  split at hop <;> cases hop <;> simp only [readClass, hcs]

theorem readClass_item {c : Char} (hcs : f.skip cs = c :: ds) (hopen : c ≠ '[') (hclose : c ≠ ']')
    (hop : classOp? c ds = none) : readClass f (n + 1) l outer cs =
      readItem f (c :: ds) >>= fun r => readClass f n (l.add r.1) outer r.2 := by
  simp only [readClass, hcs]
  split
  all_goals simp_all [classOp?]
end

theorem ne_nil_of_readClass {n : Nat} {l : ClassLevel} {outer : List ClassLevel}
    {r : CharSet × List Char} (h : readClass f n l outer cs = .ok r) : cs ≠ [] := by
  rintro rfl
  rw [readClass_nil f.skip_nil] at h
  cases h

theorem readClass_ne_ok {n : Nat} {l : ClassLevel} {outer : List ClassLevel}
    {r : CharSet × List Char} (hcs : f.skip cs = [')']) : readClass f n l outer cs ≠ .ok r := by
  intro h
  cases n with
  | zero => cases h
  | succ n =>
    rw [readClass_item hcs (by decide) (by decide) rfl] at h
    obtain ⟨r', hr', -⟩ := bind_eq_ok.mp h
    simp [readItem_eq, readClassAtom, readRange, f.skip_nil, bind, Except.bind] at hr'

theorem readsAlone_readClass {n m : Nat} {l : ClassLevel} {outer : List ClassLevel} {s : CharSet}
    (h : readClass f n l outer (cs ++ [')']) = .ok (s, rest)) (hrest : rest ≠ [])
    (hm : cs.length < m) : ReadsAlone (readClass f m l outer cs) cs s rest := by
  induction n generalizing m l outer cs with
  | zero => cases h
  | succ n ih =>
    obtain ⟨m, rfl⟩ : ∃ k, m = k + 1 := ⟨m - 1, by omega⟩
    have hsuffix := f.skip_suffix cs
    rcases f.skip_paren cs with hskip | hskip
    · rw [readClass_nil hskip] at h
      cases h
    cases hcs : f.skip cs with
    | nil => exact absurd h (readClass_ne_ok (by rw [hskip, hcs]; rfl))
    | cons c ds =>
      have hds : ds <:+ cs := (List.suffix_cons c ds).trans (hcs ▸ hsuffix)
      have hlength : ds.length < m := by
        have hle := hsuffix.length_le
        rw [hcs, List.length_cons] at hle
        omega
      rw [hcs, List.cons_append] at hskip
      by_cases hopen : c = '['
      · subst hopen
        rcases foundAlone_readAsciiClass? ds with ⟨hnone, hnone'⟩ |
          ⟨s', after, hafter, hsome, hsome'⟩
        · rw [readClass_open hskip hnone] at h
          rw [readClass_open hcs hnone']
          obtain ⟨⟨inner, mid⟩, hinner⟩ : ∃ r, openClass f (ds ++ [')']) = r := ⟨_, rfl⟩
          rw [hinner] at h
          obtain ⟨after, hafter, rfl, halone⟩ :=
            readsAlone_openClass hinner (ne_nil_of_readClass h)
          rw [Except.ok.inj halone]
          exact (ih h (hafter.length_le.trans_lt hlength)).mono (hafter.trans hds)
        · rw [readClass_name hskip hsome] at h
          rw [readClass_name hcs hsome']
          exact (ih h (hafter.length_le.trans_lt hlength)).mono (hafter.trans hds)
      by_cases hclose : c = ']'
      · subst hclose
        cases outer with
        | nil =>
          rw [readClass_last hskip] at h
          rw [readClass_last hcs]
          obtain ⟨s', hs', heq⟩ := map_eq_ok.mp h
          cases heq
          rw [hs']
          exact .now _ hds
        | cons o os =>
          rw [readClass_close hskip] at h
          rw [readClass_close hcs]
          obtain ⟨s', hs', h⟩ := bind_eq_ok.mp h
          rw [hs']
          exact (ih h hlength).mono hds
      rcases foundAlone_classOp? c ds with ⟨hnone, hnone'⟩ | ⟨op, after, hafter, hsome, hsome'⟩
      · rw [readClass_item hskip hopen hclose hnone] at h
        rw [readClass_item hcs hopen hclose hnone']
        obtain ⟨⟨s', mid⟩, hitem, h⟩ := bind_eq_ok.mp h
        -- An item may leave just the parenthesis where it would need more text alone, but a class
        -- cannot go on from there.
        have hlast : mid ≠ [')'] := by
          rintro rfl
          exact readClass_ne_ok f.skip_last h
        obtain ⟨after, hafter, rfl, halone⟩ :=
          readsAlone_readItem hitem (ne_nil_of_readClass h) hlast
        rw [halone]
        exact (ih h (hafter.length_le.trans_lt hlength)).mono (hafter.trans hds)
      · rw [readClass_op hskip hsome] at h
        rw [readClass_op hcs hsome']
        exact (ih h (hafter.length_le.trans_lt hlength)).mono (hafter.trans hds)

end Readiness.Pattern
