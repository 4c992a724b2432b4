import Mathlib
import Readiness.Pattern.Parser

/-!
# Readings before a closing parenthesis

What a part of the reader takes from a text does not depend on a closing parenthesis behind the
text, unless the part takes the parenthesis too. Then nothing is left, since the parenthesis is the
last character. The proofs follow the parts of the reader, and this is said of each of them.

* `Pattern.ReadsAlone` : the reading of the text without the parenthesis.
* `Pattern.Flags.skip_paren` : blanks and comments.
* `Pattern.readsAlone_readHexFixed`, `Pattern.readsAlone_readHexBraced`,
  `Pattern.readsAlone_readBound` : numbers.
-/

namespace Readiness.Pattern

open Unicode

variable {α β γ : Type} {f : Flags} {cs ds rest : List Char}

/-! ## Readings -/

theorem bind_eq_ok {x : Except Fault α} {k : α → Except Fault β} {b : β} :
    (x >>= k) = .ok b ↔ ∃ a, x = .ok a ∧ k a = .ok b := by
  cases x with
  | error e => simp [bind, Except.bind]
  | ok a => simp [bind, Except.bind]

theorem map_eq_ok {x : Except Fault α} {g : α → β} {b : β} :
    x.map g = .ok b ↔ ∃ a, x = .ok a ∧ g a = b := by
  cases x with
  | error e => simp [Except.map]
  | ok a => simp [Except.map]

/-- Whether the reading `r` of the text `cs` gives `a`, and leaves `rest` without the closing
parenthesis at its end. -/
def ReadsAlone (r : Except Fault (α × List Char)) (cs : List Char) (a : α) (rest : List Char) :
    Prop :=
  ∃ after, after <:+ cs ∧ rest = after ++ [')'] ∧ r = .ok (a, after)

namespace ReadsAlone
variable {r : Except Fault (α × List Char)} {a : α}

theorem now (a : α) (h : cs <:+ ds) : ReadsAlone (.ok (a, cs)) ds a (cs ++ [')']) :=
  ⟨cs, h, rfl, rfl⟩

theorem mono (h : ReadsAlone r cs a rest) (hcs : cs <:+ ds) : ReadsAlone r ds a rest := by
  obtain ⟨after, hafter, hrest, hr⟩ := h
  exact ⟨after, hafter.trans hcs, hrest, hr⟩

theorem bind {k : α × List Char → Except Fault (β × List Char)} {b : β}
    (h : ReadsAlone r cs a rest) (hk : ∀ after, k (a, after) = .ok (b, after)) :
    ReadsAlone (r >>= k) cs b rest := by
  obtain ⟨after, hafter, hrest, rfl⟩ := h
  exact ⟨after, hafter, hrest, hk after⟩

theorem bind_map {x : Except Fault (α × List Char)} {g : α → Except Fault γ} {k : γ → β} {b : β}
    (h : (x >>= fun r => (g r.1).map fun v => (k v, r.2)) = .ok (b, rest))
    (hx : ∀ a, x = .ok (a, rest) → ReadsAlone r cs a rest) :
    ReadsAlone (r >>= fun r => (g r.1).map fun v => (k v, r.2)) cs b rest := by
  obtain ⟨⟨a, after⟩, ha, h⟩ := bind_eq_ok.mp h
  obtain ⟨v, hv, heq⟩ := map_eq_ok.mp h
  cases heq
  refine (hx a ha).bind fun after => ?_
  rw [hv]
  rfl

end ReadsAlone

/-! ## Blanks -/

theorem dropBlanks_suffix (comment : Bool) (cs : List Char) : dropBlanks comment cs <:+ cs := by
  induction cs generalizing comment with
  | nil => simp [dropBlanks]
  | cons c cs ih =>
    cases comment with
    | true => exact (ih _).trans (List.suffix_cons c cs)
    | false =>
      rw [dropBlanks]
      split_ifs
      · exact (ih _).trans (List.suffix_cons c cs)
      · exact (ih _).trans (List.suffix_cons c cs)
      · exact List.suffix_rfl

theorem Flags.skip_suffix (f : Flags) (cs : List Char) : f.skip cs <:+ cs := by
  unfold skip
  split_ifs
  · exact dropBlanks_suffix false cs
  · exact List.suffix_rfl

theorem Flags.skip_suffix_cons (f : Flags) (c : Char) (cs : List Char) : f.skip cs <:+ c :: cs :=
  (f.skip_suffix cs).trans (List.suffix_cons c cs)

theorem dropBlanks_paren (comment : Bool) (cs : List Char) :
    dropBlanks comment (cs ++ [')']) = [] ∨
      dropBlanks comment (cs ++ [')']) = dropBlanks comment cs ++ [')'] := by
  induction cs generalizing comment with
  | nil =>
    cases comment with
    | true => exact .inl rfl
    | false => exact .inr rfl
  | cons c cs ih =>
    cases comment with
    | true => exact ih _
    | false =>
      rw [List.cons_append, dropBlanks, dropBlanks]
      split_ifs
      · exact ih _
      · exact ih _
      · exact .inr rfl

theorem Flags.skip_paren (f : Flags) (cs : List Char) :
    f.skip (cs ++ [')']) = [] ∨ f.skip (cs ++ [')']) = f.skip cs ++ [')'] := by
  unfold skip
  split_ifs
  · exact dropBlanks_paren false cs
  · exact .inr rfl

theorem Flags.skip_nil (f : Flags) : f.skip [] = [] := by
  unfold skip
  split_ifs <;> rfl

theorem Flags.skip_last (f : Flags) : f.skip [')'] = [')'] := by
  unfold skip
  split_ifs <;> rfl

theorem eq_cons_of_append_paren {c : Char} (h : cs ++ [')'] = c :: rest) (hc : c ≠ ')') :
    ∃ ds, cs = c :: ds ∧ rest = ds ++ [')'] := by
  cases cs with
  | nil => exact absurd (List.cons.inj h).1.symm hc
  | cons d ds =>
    obtain ⟨rfl, rfl⟩ := List.cons.inj h
    exact ⟨ds, rfl, rfl⟩

theorem append_paren_ne_cons {c : Char} (h : ∀ ds, cs ≠ c :: ds) (hc : c ≠ ')')
    (ds : List Char) : cs ++ [')'] ≠ c :: ds := by
  intro heq
  obtain ⟨es, hes, -⟩ := eq_cons_of_append_paren heq hc
  exact h es hes

/-! ## Numbers -/

theorem dropWhile_isBlank_paren (cs : List Char) :
    (cs ++ [')']).dropWhile isBlank = cs.dropWhile isBlank ++ [')'] := by
  rw [List.dropWhile_append]
  split_ifs with h
  · rw [List.isEmpty_iff.mp h]
    decide
  · rfl

theorem readsAlone_readHexFixed {n acc a : Nat}
    (h : readHexFixed f n acc (cs ++ [')']) = .ok (a, rest)) (hrest : rest ≠ []) :
    ReadsAlone (readHexFixed f n acc cs) cs a rest := by
  induction n generalizing acc cs with
  | zero =>
    cases h
    exact .now a List.suffix_rfl
  | succ n ih =>
    cases cs with
    | nil => simp [readHexFixed, hexDigit?] at h
    | cons c cs =>
      rw [List.cons_append, readHexFixed] at h
      rw [readHexFixed]
      cases hdigit : hexDigit? c with
      | none => simp [hdigit] at h
      | some d =>
        simp only [hdigit] at h ⊢
        rcases f.skip_paren cs with hskip | hskip
        · rw [hskip] at h
          cases n with
          | zero => exact absurd (congrArg Prod.snd (Except.ok.inj h)).symm hrest
          | succ n => simp [readHexFixed] at h
        · rw [hskip] at h
          exact (ih h).mono (f.skip_suffix_cons c cs)

theorem readsAlone_readHexBraced {n m : Nat} {acc : Option Nat} {a : Nat}
    (h : readHexBraced f n acc (cs ++ [')']) = .ok (a, rest)) (hrest : rest ≠ [])
    (hm : cs.length < m) : ReadsAlone (readHexBraced f m acc cs) cs a rest := by
  induction n generalizing m acc cs with
  | zero => simp [readHexBraced] at h
  | succ n ih =>
    obtain ⟨m, rfl⟩ : ∃ k, m = k + 1 := ⟨m - 1, by omega⟩
    cases cs with
    | nil => simp [readHexBraced, hexDigit?] at h
    | cons c cs =>
      have hsuffix : f.skip cs <:+ c :: cs := f.skip_suffix_cons c cs
      have hlength := (f.skip_suffix cs).length_le
      rw [List.length_cons] at hm
      simp only [List.cons_append, readHexBraced] at h ⊢
      split_ifs at h ⊢ with hc
      · cases acc with
        | none => simp at h
        | some v =>
          cases h
          rcases f.skip_paren cs with hskip | hskip
          · exact absurd hskip hrest
          · rw [hskip]
            exact .now _ hsuffix
      · cases hdigit : hexDigit? c with
        | none => simp [hdigit] at h
        | some d =>
          simp only [hdigit] at h ⊢
          rcases f.skip_paren cs with hskip | hskip
          · rw [hskip] at h
            cases n <;> simp [readHexBraced] at h
          · rw [hskip] at h
            exact (ih h (by omega)).mono hsuffix

theorem readsAlone_readDigits {n m : Nat} {acc a : Option Nat}
    (h : readDigits f n acc (cs ++ [')']) = (a, rest)) (hrest : rest ≠ [])
    (hn : cs.length + 1 < n) (hm : cs.length < m) :
    ReadsAlone (.ok (readDigits f m acc cs)) cs a rest := by
  induction n generalizing m acc cs with
  | zero => omega
  | succ n ih =>
    obtain ⟨m, rfl⟩ : ∃ k, m = k + 1 := ⟨m - 1, by omega⟩
    cases cs with
    | nil =>
      cases h
      exact .now _ List.suffix_rfl
    | cons c cs =>
      have hlength := (f.skip_suffix cs).length_le
      rw [List.length_cons] at hn hm
      rw [List.cons_append, readDigits] at h
      rw [readDigits]
      split_ifs at h ⊢ with hc
      · rcases f.skip_paren cs with hskip | hskip
        · rw [hskip] at h
          cases n with
          | zero => omega
          | succ n =>
            cases h
            exact absurd rfl hrest
        · rw [hskip] at h
          exact (ih h (by omega) (by omega)).mono (f.skip_suffix_cons c cs)
      · rw [← List.cons_append, dropWhile_isBlank_paren] at h
        cases h
        exact .now _ (List.dropWhile_suffix isBlank)

theorem readsAlone_readBound {a : Option Nat} (h : readBound f (cs ++ [')']) = .ok (a, rest))
    (hrest : rest ≠ []) : ReadsAlone (readBound f cs) cs a rest := by
  have hsuffix : cs.dropWhile isBlank <:+ cs := List.dropWhile_suffix isBlank
  have hlength := hsuffix.length_le
  rw [readBound, dropWhile_isBlank_paren] at h
  split_ifs at h with hbound
  obtain ⟨after, hafter, hrest', hdigits⟩ := readsAlone_readDigits (Except.ok.inj h) hrest
    (by simp; omega) (Nat.lt_succ_of_le hlength)
  refine ⟨after, hafter.trans hsuffix, hrest', ?_⟩
  rw [Except.ok.inj h] at hbound
  rw [readBound, Except.ok.inj hdigits, if_neg hbound]

end Readiness.Pattern
