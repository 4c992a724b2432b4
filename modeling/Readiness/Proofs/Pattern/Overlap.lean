import Readiness.Proofs.Pattern.Search
import Readiness.Proofs.Text.Occurrences

/-!
# What a search takes and what it leaves

A search from left to right takes hits where it can. It passes over text in which it takes none, all
that it takes are hits at places of the text, and a hit that it leaves begins inside one that it
takes.

* `Cursor.after` : the cursor after some text.
* `search_append`, `search_covered` : passing over text.
* `exists_attempt_of_mem_search` : where the results come from.
* `mem_search_or_overlapped` : why a hit is left.
-/

namespace Readiness

/-- The cursor after the text `passed`, which begins at the given place. -/
def Cursor.after (offset : Nat) (before : Option Char) (passed rest : List Char) : Cursor :=
  ⟨offset + passed.length, passed.getLast?.or before, rest⟩

theorem Cursor.after_nil (offset : Nat) (before : Option Char) (rest : List Char) :
    after offset before [] rest = ⟨offset, before, rest⟩ := rfl

theorem Cursor.after_cons (offset : Nat) (before : Option Char) (x : Char)
    (passed rest : List Char) :
    after offset before (x :: passed) rest = after (offset + 1) (some x) passed rest := by
  have hoffset : offset + (x :: passed).length = offset + 1 + passed.length := by
    rw [List.length_cons]
    omega
  rw [after, after, hoffset, getLast?_cons_or]

variable {α : Type} {attempt : Cursor → Option (α × Cursor)} {last : Option Nat} {offset : Nat}
  {before : Option Char} {passed rest : List Char}

theorem search_cons (attempt : Cursor → Option (α × Cursor)) (last : Option Nat) (offset : Nat)
    (before : Option Char) (x : Char) (xs : List Char) :
    search attempt last offset before (x :: xs) =
      ((tryAt attempt last ⟨offset, before, x :: xs⟩).map (·.1)).toList ++
        search attempt (lastAfter last (tryAt attempt last ⟨offset, before, x :: xs⟩))
          (offset + 1) (some x) xs := by
  rw [search]
  cases tryAt attempt last ⟨offset, before, x :: xs⟩ <;> rfl

theorem mem_search_of_tryAt {hit : α × Cursor}
    (h : tryAt attempt last ⟨offset, before, rest⟩ = some hit) :
    hit.1 ∈ search attempt last offset before rest := by
  cases rest with
  | nil => simp [search, h]
  | cons x xs => simp [search_cons, h]

theorem tryAt_of_eq_none {c : Cursor} (h : attempt c = none) : tryAt attempt last c = none := by
  simp [tryAt, h]

theorem tryAt_of_lt {c : Cursor} {l : Nat} (h : c.offset < l) :
    tryAt attempt (some l) c = none := by
  simp [tryAt, h]

/-- **Text in which nothing is taken is passed over.** -/
theorem search_append
    (h : ∀ s t, passed = s ++ t → t ≠ [] →
      tryAt attempt last (Cursor.after offset before s (t ++ rest)) = none) :
    search attempt last offset before (passed ++ rest) =
      search attempt last (offset + passed.length) (passed.getLast?.or before) rest := by
  induction passed generalizing offset before with
  | nil => rfl
  | cons x passed ih =>
    have hhead := h [] (x :: passed) rfl (List.cons_ne_nil x passed)
    rw [Cursor.after_nil, List.cons_append] at hhead
    have hafter := Cursor.after_cons offset before x passed rest
    rw [Cursor.after, Cursor.after, Cursor.mk.injEq] at hafter
    rw [List.cons_append, search_cons, hhead, hafter.1, hafter.2.1]
    refine ih fun s t hst ht => ?_
    rw [← Cursor.after_cons]
    exact h (x :: s) t (by rw [hst, List.cons_append]) ht

theorem search_covered {l : Nat} (hl : l = offset + passed.length) :
    search attempt (some l) offset before (passed ++ rest) =
      search attempt (some l) l (passed.getLast?.or before) rest := by
  subst hl
  refine search_append fun s t hst ht => tryAt_of_lt ?_
  have hpos := List.length_pos_of_ne_nil ht
  rw [hst, List.length_append]
  show offset + s.length < _
  omega

theorem exists_attempt_of_mem_tryAt {a : α} {c : Cursor}
    (h : a ∈ ((tryAt attempt last c).map (·.1)).toList) : ∃ d, attempt c = some (a, d) := by
  obtain ⟨⟨b, d⟩, hhit, rfl⟩ := Option.map_eq_some_iff.mp (Option.mem_toList.mp h)
  exact ⟨d, (tryAt_eq_some_iff.mp hhit).1⟩

/-- **Results are hits at places of the text.** -/
theorem exists_attempt_of_mem_search {a : α} (h : a ∈ search attempt last offset before rest) :
    ∃ s t d, rest = s ++ t ∧ attempt (Cursor.after offset before s t) = some (a, d) := by
  induction rest generalizing last offset before with
  | nil =>
    rw [search] at h
    obtain ⟨d, hd⟩ := exists_attempt_of_mem_tryAt h
    exact ⟨[], [], d, rfl, hd⟩
  | cons x xs ih =>
    rw [search_cons, List.mem_append] at h
    rcases h with h | h
    · obtain ⟨d, hd⟩ := exists_attempt_of_mem_tryAt h
      exact ⟨[], x :: xs, d, rfl, hd⟩
    · obtain ⟨s, t, d, rfl, hd⟩ := ih h
      exact ⟨x :: s, t, d, rfl, Cursor.after_cons offset before x s t ▸ hd⟩

/-- **A hit that is left begins inside one that is taken**, or before the end of the last one. -/
theorem mem_search_or_overlapped {hit : α × Cursor}
    (hhit : attempt (Cursor.after offset before passed rest) = some hit)
    (hne : hit.2.offset ≠ offset + passed.length) :
    hit.1 ∈ search attempt last offset before (passed ++ rest) ∨
      (∃ l ∈ last, offset + passed.length < l) ∨
      ∃ s t taken, passed = s ++ t ∧ t ≠ [] ∧
        attempt (Cursor.after offset before s (t ++ rest)) = some taken ∧
        taken.1 ∈ search attempt last offset before (passed ++ rest) ∧
        offset + passed.length < taken.2.offset := by
  induction passed generalizing last offset before with
  | nil =>
    rw [Cursor.after_nil] at hhit
    by_cases hfree : ∀ l ∈ last, l ≤ offset
    · refine .inl (mem_search_of_tryAt (tryAt_eq_some_iff.mpr ⟨hhit, fun l hl => ?_⟩))
      exact ⟨hfree l hl, fun hempty => absurd hempty hne⟩
    · push Not at hfree
      exact .inr (.inl hfree)
  | cons x passed ih =>
    have hlength : offset + (x :: passed).length = offset + 1 + passed.length := by
      rw [List.length_cons]
      omega
    rw [hlength] at hne ⊢
    rw [Cursor.after_cons] at hhit
    let next := lastAfter last (tryAt attempt last ⟨offset, before, x :: (passed ++ rest)⟩)
    have hmem : ∀ a ∈ search attempt next (offset + 1) (some x) (passed ++ rest),
        a ∈ search attempt last offset before (x :: passed ++ rest) := by
      intro a ha
      rw [List.cons_append, search_cons]
      exact List.mem_append_right _ ha
    rcases @ih next (offset + 1) (some x) hhit hne with
      h | ⟨l, hl, hlt⟩ | ⟨s, t, taken, rfl, ht, htaken, hin, hlt⟩
    · exact .inl (hmem _ h)
    · cases htry : tryAt attempt last ⟨offset, before, x :: (passed ++ rest)⟩ with
      | none =>
        simp only [next, htry, lastAfter] at hl
        exact .inr (.inl ⟨l, hl, hlt⟩)
      | some taken =>
        simp only [next, htry, lastAfter, Option.mem_some_iff] at hl
        refine .inr (.inr ⟨[], x :: passed, taken, rfl, List.cons_ne_nil x passed, ?_, ?_, ?_⟩)
        · exact (tryAt_eq_some_iff.mp htry).1
        · exact mem_search_of_tryAt htry
        · rwa [hl]
    · refine .inr (.inr ⟨x :: s, t, taken, rfl, ht, ?_, hmem _ hin, hlt⟩)
      rwa [Cursor.after_cons]

end Readiness
