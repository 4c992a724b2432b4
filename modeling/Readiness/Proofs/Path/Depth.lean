import Readiness.Proofs.Path.Ancestors

/-!
# How far a path leads up

The chain of parents of a path counts its components: each parent has one component less, and the
chain ends where none is left. A `.` at the beginning of a path is a component of its own, with the
empty path as its parent; separators and `.` at other places add nothing.

* `Path.depth` : the number of components.
* `Path.above?` : the path so many parents above a path.
* `Path.length_ancestors`, `Path.getElem?_ancestors` : the chain of parents, by its length and its
  members.
-/

namespace Readiness.Path

/-- Whether a path begins with `.` as a component of its own. -/
def startsHere (path : String) : Bool := (Text.splitAt '/' path.toList).head? == some ['.']

/-- The number of components of a path below where it begins: its names, and a `.` in first
place. -/
def depth (path : String) : Nat := (names path).length + (startsHere path).toNat

/-- The path `n` parents above a path, if there are as many. -/
def above? : (n : Nat) → (path : String) → Option String
  | 0, path => some path
  | n + 1, path => (parent? path).bind (above? n)

variable {path parent above : String}

namespace Parts

theorem getLast?_of_component {s : List Char} (h : (ofText s).head = .component) :
    ∀ first ∈ (ofText s).segments.getLast?, first ≠ ['.'] := by
  unfold ofText at h ⊢
  split at h
  · cases h
  · cases h
  · cases h
  · next hroot hhere hslash =>
    rintro first hfirst rfl
    rw [List.getLast?_reverse, Option.mem_def, List.head?_eq_some_iff] at hfirst
    obtain ⟨rest, hrest⟩ := hfirst
    have hs : Text.joinWith ['/'] (Text.splitAt '/' s) = s := Text.joinWith_splitAt s
    rw [hrest] at hs
    by_cases hnil : rest = []
    · rw [hnil] at hs
      exact hhere hs.symm
    · rw [Text.joinWith_cons ['.'] hnil] at hs
      exact hslash _ hs.symm

theorem head?_splitAt_text {p : Parts} (h : p.Proper)
    (hfirst : p.head = .component → ∀ s ∈ p.segments.getLast?, s ≠ ['.']) :
    ((Text.splitAt '/' p.text).head? == some ['.']) = decide (p.head = .here) := by
  obtain ⟨head, segments⟩ := p
  cases head with
  | root =>
    rw [text, Head.text, List.singleton_append, Text.splitAt_cons_sep]
    rfl
  | here =>
    have hvoid := h.here rfl
    rw [← List.head?_reverse] at hvoid
    simp only [text, Head.text]
    cases hps : segments.reverse with
    | nil => rfl
    | cons first ps =>
      rw [hps] at hvoid
      obtain rfl := hvoid first rfl
      by_cases hnil : ps = []
      · subst hnil
        rfl
      · rw [Text.joinWith_cons [] hnil, List.nil_append, Text.splitAt_append_sep]
        rfl
  | component =>
    have hpieces : ∀ s ∈ segments.reverse, '/' ∉ s := by
      intro s hs
      exact h.no_separator s (List.mem_reverse.mp hs)
    simp only [text, Head.text, List.nil_append]
    cases hps : segments.reverse with
    | nil => rfl
    | cons first ps =>
      rw [hps] at hpieces
      rw [Text.splitAt_joinWith (List.cons_ne_nil first ps) hpieces, List.head?_cons]
      have hne : first ≠ ['.'] := by
        apply hfirst rfl
        rw [← List.head?_reverse, hps]
        rfl
      simpa using hne

end Parts

theorem startsHere_eq (path : String) :
    startsHere path = decide ((Parts.ofText path.toList).head = .here) := by
  have h := Parts.head?_splitAt_text (Parts.proper_ofText path.toList)
    Parts.getLast?_of_component
  rwa [Parts.text_ofText] at h

/-- **A parent has one component less.** -/
theorem depth_parent? (h : parent? path = some parent) : depth path = depth parent + 1 := by
  have hnames := names_parent? h
  obtain ⟨q, hq, hparent⟩ := parent?_eq_some_iff.mp h
  have hproper := Parts.proper_ofText path.toList
  have hspelled := Parts.spelled_text hproper
  rw [Parts.text_ofText] at hspelled
  rw [depth, depth, startsHere_eq, hnames, List.length_dropLast]
  rcases Parts.parent?_eq_some hq with ⟨name, rest, -, -, hname, hsegments, hhead, hsuffix, htrim⟩ |
    ⟨hhead, hvoids, rfl⟩
  · have hstarts : startsHere parent = decide (q.head = .here) := by
      rw [startsHere, hparent]
      apply Parts.head?_splitAt_text (hproper.of_suffix hhead hsuffix htrim)
      intro hcomponent s hs
      apply Parts.getLast?_of_component (hhead ▸ hcomponent) s
      exact Parts.getLast?_of_suffix (hsuffix.trans (List.dropWhile_suffix _)) s hs
    have hpos : 0 < (names path).length := by
      rw [names, hspelled, hsegments, List.filter_append, hname]
      simp
    rw [hstarts, hhead]
    omega
  · have hstarts : startsHere parent = false := by
      rw [startsHere, hparent]
      rfl
    have hnil : names path = [] := by
      rw [names, hspelled, Parts.filter_reverse_voids hvoids]
      rfl
    rw [hstarts, hnil, hhead]
    rfl

theorem depth_of_parent?_eq_none (h : parent? path = none) : depth path = 0 := by
  have hhead : (Parts.ofText path.toList).head ≠ .here := by
    intro hhead
    rw [parent?, Option.map_eq_none_iff, Parts.parent?, hhead] at h
    split at h <;> cases h
  rw [depth, startsHere_eq, names_of_parent?_eq_none h, decide_eq_false hhead]
  rfl

/-- **The chain of parents is as long as the path is deep.** -/
theorem length_ancestors (path : String) : (ancestors path).length = depth path + 1 := by
  induction path using chainInduction with
  | step path ih =>
    rw [ancestors_eq, List.length_cons]
    cases hparent : parent? path with
    | none =>
      rw [depth_of_parent?_eq_none hparent]
      rfl
    | some parent => rw [Option.elim_some, ih parent hparent, depth_parent? hparent]

theorem getElem?_ancestors (n : Nat) (path : String) : (ancestors path)[n]? = above? n path := by
  induction n generalizing path with
  | zero =>
    rw [ancestors_eq]
    rfl
  | succ n ih =>
    rw [ancestors_eq, List.getElem?_cons_succ, above?]
    cases parent? path with
    | none => rfl
    | some parent => exact ih parent

theorem forall_above?_iff (P : Nat → String → Prop) (path : String) :
    (∀ n above, above? n path = some above → P n above) ↔
      P 0 path ∧ ∀ parent, parent? path = some parent →
        ∀ n above, above? n parent = some above → P (n + 1) above := by
  constructor
  · intro h
    refine ⟨h 0 path rfl, ?_⟩
    intro parent hparent n above habove
    apply h (n + 1) above
    rw [above?, hparent]
    exact habove
  · rintro ⟨hpath, habove⟩ n above h
    cases n with
    | zero =>
      cases h
      exact hpath
    | succ n =>
      obtain ⟨parent, hparent, h⟩ := Option.bind_eq_some_iff.mp h
      exact habove parent hparent n above h

theorem isSome_above?_iff (n : Nat) (path : String) :
    (above? n path).isSome ↔ n ≤ depth path := by
  rw [← getElem?_ancestors, Option.isSome_iff_ne_none, ne_eq, List.getElem?_eq_none_iff,
    length_ancestors]
  omega

theorem length_le_of_mem_ancestors (h : above ∈ ancestors path) : above.length ≤ path.length := by
  induction path using chainInduction with
  | step path ih =>
    rw [ancestors_eq] at h
    rcases List.mem_cons.mp h with rfl | h
    · exact Nat.le_refl _
    · cases hparent : parent? path with
      | none => simp [hparent] at h
      | some parent =>
        rw [hparent] at h
        have hlt := length_parent?_lt hparent
        have hle := ih parent hparent h
        omega

theorem pairwise_ancestors (path : String) :
    (ancestors path).Pairwise fun below above => above.length < below.length := by
  induction path using chainInduction with
  | step path ih =>
    rw [ancestors_eq]
    cases hparent : parent? path with
    | none => exact List.pairwise_singleton _ path
    | some parent =>
      rw [Option.elim_some, List.pairwise_cons]
      refine ⟨?_, ih parent hparent⟩
      intro above habove
      exact (length_le_of_mem_ancestors habove).trans_lt (length_parent?_lt hparent)

/-- Separators and `.` inside a path do not make it deeper; a `.` in first place does. -/
example : ["/a//b/./c/", "a/./..", "./a", "."].map depth = [3, 2, 2, 1] := by decide +kernel

end Readiness.Path
