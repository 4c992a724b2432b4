import Mathlib
import Readiness.Unicode.CaseFold
import Readiness.Unicode.Class

/-!
# Small letters, their case variants and blanks

The names of commands are made of small ASCII letters and underscores. Whatever folds to one of
these is a word character, in ASCII or beyond, and no blank is one.

* `Unicode.IsSmall` : the characters in question.
* `Unicode.mem_caseVariants_iff` : their case variants are what folds to them.
* `Unicode.isWord_of_foldCase` : these are word characters.
* `Unicode.not_isWord_of_isBlank` : blanks are not.
-/

namespace Readiness.Unicode

/-- An ASCII word character that is no capital letter. -/
structure IsSmall (n : Char) : Prop where
  ascii : n.toNat < 128
  not_capital : ¬ (0x41 ≤ n.toNat ∧ n.toNat ≤ 0x5A)
  word : isWord n = true

instance (n : Char) : Decidable (IsSmall n) :=
  decidable_of_iff (n.toNat < 128 ∧ ¬ (0x41 ≤ n.toNat ∧ n.toNat ≤ 0x5A) ∧ isWord n = true)
    ⟨fun h => ⟨h.1, h.2.1, h.2.2⟩, fun h => ⟨h.1, h.2, h.3⟩⟩

variable {c n : Char}

theorem forall_ascii {P : Char → Prop} (h : ∀ k < 128, P (Char.ofNat k)) :
    ∀ c : Char, c.toNat < 128 → P c := by
  intro c hc
  have hcode := h c.toNat hc
  rwa [Char.ofNat_toNat] at hcode

theorem IsSmall.eq_toNat {m : Nat} (hn : IsSmall n) (h : Char.ofNat m = n) : m = n.toNat := by
  have hzero : isWord (Char.ofNat 0) = false := by decide
  have hword := hn.word
  rw [← h, Char.toNat_ofNat]
  split_ifs with hm
  · rfl
  · rw [← Char.ofNat_toNat n, ← h, Char.toNat_ofNat, if_neg hm, hzero] at hword
    cases hword

/-! ## Folding -/

theorem FoldRun.fold?_eq_some {r : FoldRun} {k m : Nat} (h : r.fold? k = some m) :
    r.first ≤ k ∧ k ≤ r.last ∧ m = r.target + (k - r.first) := by
  rw [fold?] at h
  split_ifs at h with hk
  simp only [Bool.and_eq_true, decide_eq_true_eq] at hk
  cases h
  exact ⟨hk.1.1, hk.1.2, rfl⟩

theorem FoldRun.origin?_eq_some {r : FoldRun} {k m : Nat} (h : r.origin? k = some m) :
    r.first ≤ m ∧ m ≤ r.last := by
  simp only [origin?] at h
  split_ifs at h with hk
  simp only [Bool.and_eq_true, decide_eq_true_eq] at hk
  cases h
  exact ⟨Nat.le_add_right _ _, hk.1.2⟩

theorem first_lt_of_mem_foldRuns : ∀ r ∈ foldRuns, r.first < 128 →
    r.first = 0x41 ∧ r.last = 0x5A := by
  decide +kernel

theorem target_lt_of_mem_foldRuns : ∀ r ∈ foldRuns, r.target < 128 →
    r.last < 128 ∨ r.first = r.last ∧ isWord (Char.ofNat r.first) = true := by
  decide +kernel

theorem foldCase_of_ascii (hc : c.toNat < 128) : foldCase c = c.toLower := by
  have hlate : ∀ r ∈ foldRuns.tail, 128 ≤ r.first := by decide +kernel
  have hothers : foldRuns.tail.findSome? (·.fold? c.toNat) = none := by
    refine List.findSome?_eq_none_iff.mpr fun r hr => ?_
    cases hfold : r.fold? c.toNat with
    | none => rfl
    | some m =>
      have := (FoldRun.fold?_eq_some hfold).1
      have := hlate r hr
      omega
  have hcapitals : ∀ c : Char, c.toNat < 128 →
      (FoldRun.fold? ⟨0x41, 0x5A, 1, 0x61⟩ c.toNat).elim c Char.ofNat = c.toLower :=
    forall_ascii (by decide +kernel)
  rw [← hcapitals c hc, foldCase, show foldRuns = ⟨0x41, 0x5A, 1, 0x61⟩ :: foldRuns.tail from rfl,
    List.findSome?_cons, hothers]
  cases FoldRun.fold? ⟨0x41, 0x5A, 1, 0x61⟩ c.toNat <;> rfl

theorem IsSmall.foldCase_eq (hn : IsSmall n) : foldCase n = n := by
  have hlower : ∀ c : Char, c.toNat < 128 → ¬ (0x41 ≤ c.toNat ∧ c.toNat ≤ 0x5A) → c.toLower = c :=
    forall_ascii (by decide +kernel)
  rw [foldCase_of_ascii hn.ascii, hlower n hn.ascii hn.not_capital]

/-- **What folds to a small character is a word character.** -/
theorem isWord_of_foldCase (hn : IsSmall n) (h : foldCase c = n) : isWord c = true := by
  by_cases hc : c.toNat < 128
  · have hlower : ∀ c : Char, c.toNat < 128 → isWord c.toLower → isWord c :=
      forall_ascii (by decide +kernel)
    refine hlower c hc ?_
    rw [← foldCase_of_ascii hc, h]
    exact hn.word
  · rw [foldCase] at h
    cases hfold : foldRuns.findSome? (·.fold? c.toNat) with
    | none =>
      rw [hfold] at h
      obtain rfl : c = n := h
      exact absurd hn.ascii hc
    | some m =>
      rw [hfold] at h
      obtain ⟨r, hr, hrun⟩ := List.exists_of_findSome?_eq_some hfold
      obtain ⟨hfirst, hlast, htarget⟩ := FoldRun.fold?_eq_some hrun
      have hm := hn.eq_toNat h
      have hascii := hn.ascii
      rcases target_lt_of_mem_foldRuns r hr (by omega) with hlow | ⟨hsingle, hword⟩
      · omega
      · rwa [← Char.ofNat_toNat c, show c.toNat = r.first by omega]

/-! ## Case variants -/

theorem mem_asciiVariants_iff (hc : c.toNat < 128) (hn : IsSmall n) :
    n ∈ asciiVariants c ↔ c.toLower = n := by
  have hlower : ∀ c : Char, c.toNat < 128 → c.toLower ∈ asciiVariants c :=
    forall_ascii (by decide +kernel)
  have hothers : ∀ c : Char, c.toNat < 128 → (asciiVariants c).all fun v =>
      v = c.toLower ∨ ¬ v.toNat < 128 ∨ 0x41 ≤ v.toNat ∧ v.toNat ≤ 0x5A :=
    forall_ascii (by decide +kernel)
  refine ⟨fun hmem => ?_, fun heq => heq ▸ hlower c hc⟩
  rcases of_decide_eq_true (List.all_eq_true.mp (hothers c hc) n hmem) with
    heq | hbeyond | hcapital
  · exact heq.symm
  · exact absurd hn.ascii hbeyond
  · exact absurd hcapital hn.not_capital

/-- **The case variants of a small character are what folds to it.** -/
theorem mem_caseVariants_iff (hn : IsSmall n) : n ∈ caseVariants c ↔ foldCase c = n := by
  by_cases hc : c.toNat < 128
  · rw [caseVariants, if_pos hc, foldCase_of_ascii hc, mem_asciiVariants_iff hc hn]
  · rw [caseVariants, if_neg hc, List.mem_cons, List.mem_filterMap]
    refine ⟨?_, fun h => .inl h.symm⟩
    rintro (h | ⟨r, hr, h⟩)
    · exact h.symm
    · -- Only capital letters in ASCII fold to another character.
      obtain ⟨m, horigin, hm⟩ := Option.map_eq_some_iff.mp h
      have hcode := hn.eq_toNat hm
      have hascii := hn.ascii
      have hrange := FoldRun.origin?_eq_some horigin
      have hcapitals := first_lt_of_mem_foldRuns r hr (by omega)
      exact absurd ⟨by omega, by omega⟩ hn.not_capital

/-! ## Blanks -/

/-- The code points of the blanks. -/
def blankCodes : List Nat :=
  List.range' 9 5 ++ [0x20, 0x85, 0xA0, 0x1680] ++ List.range' 0x2000 11 ++
    [0x2028, 0x2029, 0x202F, 0x205F, 0x3000]

theorem mem_blankCodes (h : isBlank c) : c.toNat ∈ blankCodes := by
  simp only [isBlank, Bool.or_eq_true, Bool.and_eq_true, decide_eq_true_eq, beq_iff_eq] at h
  simp only [blankCodes, List.mem_append, List.mem_range'_1, List.mem_cons, List.not_mem_nil,
    or_false]
  omega

/-- **Blanks are no word characters.** -/
theorem not_isWord_of_isBlank (h : isBlank c) : isWord c = false := by
  have hcodes : ∀ k ∈ blankCodes, isWord (Char.ofNat k) = false := by decide +kernel
  rw [← Char.ofNat_toNat c]
  exact hcodes _ (mem_blankCodes h)

end Readiness.Unicode
