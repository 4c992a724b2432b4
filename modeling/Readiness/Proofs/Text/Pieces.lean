import Mathlib
import Readiness.Text.Blank

/-!
# Pieces between separators

Splitting a text at its separators and joining pieces with separators between them.

* `Text.splitAt_append_sep` : a separator splits a text into the pieces on both sides.
* `Text.joinWith_splitAt` : joining undoes splitting.
* `Text.joinWith_append` : joined lists of pieces.
* `Text.words_eq` : words are the pieces between blanks.
-/

namespace Readiness.Text

variable {sep : Char}

theorem splitAt_cons_sep (s : List Char) : splitAt sep (sep :: s) = [] :: splitAt sep s := by
  simp [splitAt]

theorem splitAt_ne_nil (s : List Char) : splitAt sep s ≠ [] := by
  cases s with
  | nil => simp [splitAt]
  | cons c s =>
    rw [splitAt]
    split_ifs
    · simp
    · split <;> simp

theorem splitAt_append_sep (s t : List Char) :
    splitAt sep (s ++ sep :: t) = splitAt sep s ++ splitAt sep t := by
  induction s with
  | nil => simp [splitAt]
  | cons c s ih =>
    rw [List.cons_append, splitAt, splitAt, ih]
    split_ifs
    · rfl
    · cases hs : splitAt sep s with
      | nil => exact absurd hs (splitAt_ne_nil s)
      | cons p ps => rfl

theorem not_mem_of_mem_splitAt {s p : List Char} (h : p ∈ splitAt sep s) : sep ∉ p := by
  induction s generalizing p with
  | nil => simp_all [splitAt]
  | cons c s ih =>
    rw [splitAt] at h
    by_cases hc : c = sep
    · rw [if_pos (by simpa using hc)] at h
      rcases List.mem_cons.mp h with rfl | h
      · exact List.not_mem_nil
      · exact ih h
    · rw [if_neg (by simpa using hc)] at h
      cases hs : splitAt sep s with
      | nil => exact absurd hs (splitAt_ne_nil s)
      | cons q qs =>
        rw [hs] at h ih
        rcases List.mem_cons.mp h with rfl | h
        · rw [List.mem_cons, not_or]
          exact ⟨Ne.symm hc, ih List.mem_cons_self⟩
        · exact ih (List.mem_cons_of_mem q h)

theorem joinWith_cons (p : List Char) {ps : List (List Char)} (h : ps ≠ []) :
    joinWith [sep] (p :: ps) = p ++ sep :: joinWith [sep] ps := by
  obtain ⟨q, qs, rfl⟩ := List.exists_cons_of_ne_nil h
  simp [joinWith]

theorem joinWith_splitAt (s : List Char) : joinWith [sep] (splitAt sep s) = s := by
  induction s with
  | nil => rfl
  | cons c s ih =>
    rw [splitAt]
    split_ifs with hc
    · rw [joinWith_cons _ (splitAt_ne_nil s), ih, beq_iff_eq.mp hc, List.nil_append]
    · cases hs : splitAt sep s with
      | nil => exact absurd hs (splitAt_ne_nil s)
      | cons p ps =>
        rw [hs] at ih
        cases ps with
        | nil => simpa [joinWith] using ih
        | cons q qs => simpa [joinWith] using ih

theorem joinWith_append {pieces others : List (List Char)} (h : pieces ≠ []) (h' : others ≠ []) :
    joinWith [sep] (pieces ++ others) = joinWith [sep] pieces ++ sep :: joinWith [sep] others := by
  induction pieces with
  | nil => exact absurd rfl h
  | cons p ps ih =>
    by_cases hps : ps = []
    · subst hps
      exact joinWith_cons p h'
    · rw [List.cons_append, joinWith_cons p (by simp [hps]), ih hps, joinWith_cons p hps,
        List.append_assoc, List.cons_append]

theorem joinWith_ne_nil {pieces : List (List Char)} {p : List Char} (hp : p ∈ pieces)
    (hne : p ≠ []) : joinWith [sep] pieces ≠ [] := by
  obtain ⟨before, after, rfl⟩ := List.append_of_mem hp
  by_cases hafter : after = []
  · by_cases hbefore : before = []
    · simpa [hafter, hbefore, joinWith] using hne
    · simp [hafter, joinWith_append hbefore]
  · by_cases hbefore : before = []
    · simp [hbefore, joinWith_cons p hafter]
    · simp [joinWith_append hbefore]

theorem joinWith_concat_append (pieces : List (List Char)) (p t : List Char) :
    joinWith [sep] (pieces ++ [p]) ++ t = joinWith [sep] (pieces ++ [p ++ t]) := by
  by_cases h : pieces = []
  · subst h
    rfl
  · rw [joinWith_append h (by simp), joinWith_append h (by simp), List.append_assoc]
    rfl

/-! ## Words -/

theorem splitBlanks_eq {word : List Char} (hword : ∀ x ∈ word, ¬ Unicode.isBlank x)
    (s : List Char) :
    splitBlanks word s = ((word.reverse ++ s).splitOnP Unicode.isBlank).filter (· ≠ []) := by
  have hplain : ∀ x ∈ word.reverse, Unicode.isBlank x = false := fun x hx => by
    simpa using hword x (List.mem_reverse.mp hx)
  induction s generalizing word with
  | nil =>
    rw [List.append_nil, List.splitOnP_eq_singleton hplain]
    cases word with
    | nil => rfl
    | cons w ws =>
      rw [List.filter_cons_of_pos (by simp)]
      rfl
  | cons c s ih =>
    rw [splitBlanks.eq_def]
    simp only
    split_ifs with hblank hempty
    · rw [List.isEmpty_iff.mp hempty, ih (by simp) (by simp), List.reverse_nil, List.nil_append,
        List.nil_append, List.splitOnP_cons_eq_if_modifyHead, if_pos hblank]
      simp
    · rw [List.splitOnP_append_cons_of_forall_mem hplain c hblank,
        List.filter_cons_of_pos (by simpa using hempty), ih (by simp) (by simp)]
      rfl
    · have hnew : ∀ x ∈ c :: word, ¬ Unicode.isBlank x :=
        List.forall_mem_cons.mpr ⟨hblank, hword⟩
      rw [ih hnew fun x hx => by simpa using hnew x (List.mem_reverse.mp hx), List.reverse_cons,
        List.append_assoc]
      rfl

/-- **Words are the pieces between blanks**, less the empty ones. -/
theorem words_eq (s : List Char) : words s = (s.splitOnP Unicode.isBlank).filter (· ≠ []) :=
  splitBlanks_eq (fun _ hx => absurd hx List.not_mem_nil) s

end Readiness.Text
