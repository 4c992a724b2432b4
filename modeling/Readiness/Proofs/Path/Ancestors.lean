import Readiness.Disk.Basic
import Readiness.Proofs.Disk.Names
import Readiness.Proofs.Text.Pieces

/-!
# The chain of parents

What the parent of a path spells: the same names without the last one. Each parent is shorter than
the path, so that the chain of parents ends, and it ends where no names are left.

* `Path.names` : the names that a path spells.
* `Path.names_parent?`, `Path.isAbsolute_parent?` : what a parent spells, and from where.
* `Path.ancestors_eq` : the chain of parents, one step at a time.
-/

namespace Readiness

namespace Path

/-- The pieces of a text that name something. -/
def spelled (s : List Char) : List (List Char) :=
  (Text.splitAt '/' s).filter fun p => !Parts.isVoid p

/-- The names that a path spells: its segments without those that name nothing. -/
def names (path : String) : List String := (spelled path.toList).map String.ofList

namespace Parts

/-- What reading a path ensures: no separators in the segments, none missing at the beginning. -/
structure Proper (p : Parts) : Prop where
  no_separator : ∀ s ∈ p.segments, '/' ∉ s
  here : p.head = .here → ∀ s ∈ p.segments.getLast?, s = []
  component : p.head = .component → ∀ s ∈ p.trimmed.segments.getLast?, s ≠ []

theorem trimmed_trimmed (p : Parts) : p.trimmed.trimmed = p.trimmed := by
  simp [trimmed, List.dropWhile_idempotent]

theorem getLast?_of_suffix {α : Type} {l l' : List α} (h : l' <:+ l) :
    ∀ a ∈ l'.getLast?, a ∈ l.getLast? := by
  obtain ⟨k, rfl⟩ := h
  intro a ha
  rw [List.getLast?_append, Option.mem_def.mp ha]
  rfl

theorem Proper.of_suffix {p q : Parts} (h : p.Proper) (hhead : q.head = p.head)
    (hsuffix : q.segments <:+ p.trimmed.segments) (htrimmed : q.trimmed = q) : q.Proper where
  no_separator s hs :=
    h.no_separator s ((hsuffix.trans (List.dropWhile_suffix _)).mem hs)
  here hq s hs := h.here (hhead ▸ hq) s
    (getLast?_of_suffix (hsuffix.trans (List.dropWhile_suffix _)) s hs)
  component hq s hs := h.component (hhead ▸ hq) s (getLast?_of_suffix hsuffix s (htrimmed ▸ hs))

theorem text_ofText (s : List Char) : (ofText s).text = s := by
  unfold ofText
  split
  · simp [text, Head.text, Text.joinWith_splitAt]
  · rfl
  · simp [text, Head.text, Text.joinWith_splitAt]
  · simp [text, Head.text, Text.joinWith_splitAt]

theorem proper_ofText (s : List Char) : (ofText s).Proper := by
  unfold ofText
  split
  · next rest =>
    refine ⟨fun p hp => Text.not_mem_of_mem_splitAt (List.mem_reverse.mp hp), ?_, ?_⟩ <;> simp
  · refine ⟨?_, ?_, ?_⟩ <;> simp
  · next rest =>
    refine ⟨fun p hp => Text.not_mem_of_mem_splitAt (List.mem_reverse.mp hp), ?_, ?_⟩
    · simp [Text.splitAt_cons_sep]
    · simp
  · next hroot hhere hslash =>
    refine ⟨fun p hp => Text.not_mem_of_mem_splitAt (List.mem_reverse.mp hp), by simp, ?_⟩
    rintro - p hp rfl
    have hfirst := getLast?_of_suffix (List.dropWhile_suffix _) [] hp
    rw [List.getLast?_reverse] at hfirst
    cases s with
    | nil => simp [trimmed, Text.splitAt, isVoid] at hp
    | cons c s =>
      rw [Text.splitAt] at hfirst
      split_ifs at hfirst with hc
      · exact hroot s (by rw [beq_iff_eq.mp hc])
      · split at hfirst <;> simp at hfirst

theorem spelled_text {p : Parts} (h : p.Proper) :
    spelled p.text = p.segments.reverse.filter fun s => !isVoid s := by
  obtain ⟨head, segments⟩ := p
  have hjoin : ∀ ps : List (List Char), (∀ s ∈ ps, '/' ∉ s) →
      spelled (Text.joinWith ['/'] ps) = ps.filter fun s => !isVoid s := by
    intro ps hps
    by_cases hnil : ps = []
    · subst hnil
      rfl
    · rw [spelled, Text.splitAt_joinWith hnil hps]
  have hpieces : ∀ s ∈ segments.reverse, '/' ∉ s := fun s hs =>
    h.no_separator s (List.mem_reverse.mp hs)
  cases head with
  | root =>
    rw [text, Head.text, spelled, List.singleton_append, Text.splitAt_cons_sep,
      List.filter_cons_of_neg (by simp [isVoid])]
    exact hjoin _ hpieces
  | here =>
    have hfirst := h.here rfl
    rw [← List.head?_reverse] at hfirst
    simp only [text, Head.text]
    cases hps : segments.reverse with
    | nil => rfl
    | cons first ps =>
      rw [hps] at hfirst hpieces
      obtain rfl := hfirst first rfl
      rw [List.filter_cons_of_neg (by simp [isVoid])]
      by_cases hnil : ps = []
      · subst hnil
        rfl
      · rw [Text.joinWith_cons [] hnil, List.nil_append, spelled, Text.splitAt_append_sep,
          List.filter_append]
        exact hjoin ps fun s hs => hpieces s (List.mem_cons_of_mem _ hs)
  | component => exact hjoin _ hpieces

theorem exists_trimmed (p : Parts) : ∃ voids, (∀ s ∈ voids, isVoid s) ∧
    p.segments = voids ++ p.trimmed.segments :=
  ⟨p.segments.takeWhile isVoid, fun _ hs => List.mem_takeWhile_imp hs,
    List.takeWhile_append_dropWhile.symm⟩

theorem not_isVoid_of_trimmed {p : Parts} {s : List Char} {above : List (List Char)}
    (h : p.trimmed.segments = s :: above) : isVoid s = false := by
  have hhead := List.head?_dropWhile_not isVoid p.segments
  rw [show p.segments.dropWhile isVoid = s :: above from h] at hhead
  simpa using hhead

theorem filter_reverse_voids {voids : List (List Char)} (h : ∀ s ∈ voids, isVoid s) :
    (voids.reverse.filter fun s => !isVoid s) = [] := by
  rw [List.filter_eq_nil_iff]
  intro s hs
  simp [h s (List.mem_reverse.mp hs)]

theorem parent?_eq_some {p q : Parts} (h : p.parent? = some q) :
    (∃ name rest, name ∈ rest ∧ name ≠ [] ∧ (rest.filter fun s => !isVoid s) = [name] ∧
      p.segments.reverse = q.segments.reverse ++ rest ∧ q.head = p.head ∧
      q.segments <:+ p.trimmed.segments ∧ q.trimmed = q) ∨
    (p.head = .here ∧ (∀ s ∈ p.segments, isVoid s) ∧ q = ⟨.component, []⟩) := by
  obtain ⟨voids, hvoids, hsegments⟩ := p.exists_trimmed
  rw [parent?] at h
  split at h
  · next head s above htrimmed =>
    cases h
    left
    obtain ⟨voids', hvoids', habove⟩ := (Parts.mk p.head above).exists_trimmed
    have hs := not_isVoid_of_trimmed htrimmed
    refine ⟨s, voids'.reverse ++ s :: voids.reverse, by simp, ?_, ?_, ?_, rfl, ?_,
      trimmed_trimmed _⟩
    · rintro rfl
      simp [isVoid] at hs
    · rw [List.filter_append, List.filter_cons_of_pos (by simpa using hs),
        filter_reverse_voids hvoids, filter_reverse_voids hvoids', List.nil_append]
    · rw [hsegments, htrimmed]
      conv_lhs => rw [show above = _ from habove]
      simp
    · rw [htrimmed]
      exact (List.dropWhile_suffix _).trans (List.suffix_cons s above)
  · next htrimmed hhead =>
    cases h
    right
    rw [htrimmed, List.append_nil] at hsegments
    exact ⟨hhead, hsegments ▸ hvoids, rfl⟩
  · cases h

theorem parent?_eq_none {p : Parts} (h : p.parent? = none) : ∀ s ∈ p.segments, isVoid s := by
  obtain ⟨voids, hvoids, hsegments⟩ := p.exists_trimmed
  rw [parent?] at h
  split at h
  · cases h
  · cases h
  · next htrimmed _ =>
    rw [htrimmed, List.append_nil] at hsegments
    exact hsegments ▸ hvoids

theorem length_text_lt {p q : Parts} (h : p.parent? = some q) :
    q.text.length < p.text.length := by
  rcases parent?_eq_some h with ⟨name, rest, hmem, hne, -, hsegments, hhead, -, -⟩ |
    ⟨hhead, -, rfl⟩
  · rw [text, text, hhead, hsegments, List.length_append, List.length_append]
    refine Nat.add_lt_add_left ?_ _
    have hrest : rest ≠ [] := List.ne_nil_of_mem hmem
    by_cases hq : q.segments.reverse = []
    · rw [hq, List.nil_append]
      exact List.length_pos_iff.mpr (Text.joinWith_ne_nil hmem hne)
    · rw [Text.joinWith_append hq hrest, List.length_append, List.length_cons]
      omega
  · rw [text, text, hhead]
    simp [Head.text, Text.joinWith]

theorem head?_text {p : Parts} (h : p.Proper) (htrimmed : p.trimmed = p) :
    (p.text.head? == some '/') = decide (p.head = .root) := by
  obtain ⟨head, segments⟩ := p
  cases head with
  | root => rfl
  | here => rfl
  | component =>
    have hfirst := h.component rfl
    rw [htrimmed, ← List.head?_reverse] at hfirst
    simp only [text, Head.text, List.nil_append]
    cases hps : segments.reverse with
    | nil => rfl
    | cons first ps =>
      rw [hps] at hfirst
      have hslash := h.no_separator first (List.mem_reverse.mp (hps ▸ List.mem_cons_self))
      obtain ⟨c, cs, rfl⟩ := List.exists_cons_of_ne_nil (hfirst first rfl)
      rw [List.mem_cons, not_or] at hslash
      cases ps <;> simp [Text.joinWith, Ne.symm hslash.1]

end Parts

/-! ## The chain -/

variable {path parent : String}

theorem head_ofText (s : List Char) :
    decide ((Parts.ofText s).head = .root) = (s.head? == some '/') := by
  unfold Parts.ofText
  split
  · rfl
  · rfl
  · rfl
  · next hroot _ _ =>
    cases s with
    | nil => rfl
    | cons c s =>
      have hc : c ≠ '/' := fun hc => hroot s (by rw [hc])
      simp [hc]

theorem parent?_eq_some_iff : parent? path = some parent ↔
    ∃ q, (Parts.ofText path.toList).parent? = some q ∧ parent.toList = q.text := by
  rw [parent?, Option.map_eq_some_iff]
  refine exists_congr fun q => and_congr_right fun _ => ?_
  rw [← String.toList_inj, String.toList_ofList, eq_comm]

theorem length_parent?_lt (h : parent? path = some parent) : parent.length < path.length := by
  obtain ⟨q, hq, hparent⟩ := parent?_eq_some_iff.mp h
  have hlt := Parts.length_text_lt hq
  rwa [Parts.text_ofText, ← hparent, String.length_toList, String.length_toList] at hlt

/-- **A parent spells all names but the last.** -/
theorem names_parent? (h : parent? path = some parent) : names parent = (names path).dropLast := by
  obtain ⟨q, hq, hparent⟩ := parent?_eq_some_iff.mp h
  have hproper := Parts.proper_ofText path.toList
  have hpath := Parts.spelled_text hproper
  rw [Parts.text_ofText] at hpath
  rw [names, names, ← List.map_dropLast, hparent, hpath]
  congr 1
  rcases Parts.parent?_eq_some hq with ⟨name, rest, -, -, hname, hsegments, hhead, hsuffix, htrim⟩ |
    ⟨-, hvoids, rfl⟩
  · rw [hsegments, List.filter_append, hname, List.dropLast_concat,
      Parts.spelled_text (hproper.of_suffix hhead hsuffix htrim)]
  · rw [Parts.filter_reverse_voids hvoids]
    rfl

/-- **A parent begins where the path does.** -/
theorem isAbsolute_parent? (h : parent? path = some parent) :
    isAbsolute parent = isAbsolute path := by
  obtain ⟨q, hq, hparent⟩ := parent?_eq_some_iff.mp h
  have hproper := Parts.proper_ofText path.toList
  rw [isAbsolute, isAbsolute, hparent, ← head_ofText path.toList]
  rcases Parts.parent?_eq_some hq with ⟨name, rest, -, -, -, -, hhead, hsuffix, htrim⟩ |
    ⟨hhead, -, rfl⟩
  · rw [Parts.head?_text (hproper.of_suffix hhead hsuffix htrim) htrim, hhead]
  · rw [hhead]
    rfl

theorem names_of_parent?_eq_none (h : parent? path = none) : names path = [] := by
  rw [parent?, Option.map_eq_none_iff] at h
  have hpath := Parts.spelled_text (Parts.proper_ofText path.toList)
  rw [Parts.text_ofText] at hpath
  rw [names, hpath, Parts.filter_reverse_voids (Parts.parent?_eq_none h)]
  rfl

theorem chain_eq_chain {fuel other : Nat} (h : path.length < fuel) (h' : path.length < other) :
    chain fuel path = chain other path := by
  induction fuel generalizing path other with
  | zero => exact absurd h (Nat.not_lt_zero _)
  | succ fuel ih =>
    obtain ⟨other, rfl⟩ := Nat.exists_eq_add_one_of_ne_zero (Nat.ne_of_gt (Nat.zero_lt_of_lt h'))
    rw [chain, chain]
    cases hparent : parent? path with
    | none => rfl
    | some parent =>
      have hlt := length_parent?_lt hparent
      have hrest : chain fuel parent = chain other parent := ih (by omega) (by omega)
      simp only [hrest]

/-- **The chain of parents, one step at a time.** -/
theorem ancestors_eq (path : String) :
    ancestors path = path :: (parent? path).elim [] ancestors := by
  rw [ancestors, chain]
  cases hparent : parent? path with
  | none => rfl
  | some parent =>
    have hlt := length_parent?_lt hparent
    simp only [Option.elim_some, ancestors]
    rw [chain_eq_chain hlt (Nat.lt_succ_self _)]

@[elab_as_elim]
theorem chainInduction {P : String → Prop}
    (step : ∀ path, (∀ parent, parent? path = some parent → P parent) → P path) (path : String) :
    P path := by
  induction hn : path.length using Nat.strong_induction_on generalizing path with
  | _ n ih =>
    subst hn
    exact step path fun parent hparent => ih _ (length_parent?_lt hparent) parent rfl

theorem isAbsolute_of_mem_ancestors {above : String} (h : above ∈ ancestors path) :
    isAbsolute above = isAbsolute path := by
  induction path using chainInduction with
  | step path ih =>
    rw [ancestors_eq] at h
    rcases List.mem_cons.mp h with rfl | h
    · rfl
    · cases hparent : parent? path with
      | none => simp [hparent] at h
      | some parent =>
        rw [hparent] at h
        rw [ih parent hparent h, isAbsolute_parent? hparent]

end Path

end Readiness
