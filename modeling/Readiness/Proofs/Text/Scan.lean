import Mathlib

/-!
# Scans

A scan goes through a text from left to right. At each place it tries to read something; behind
what it has read it goes on, and where there is nothing to read it goes on with the next character.

* `Text.Reader` : what is tried at a place.
* `Text.Reader.scan` : all that is read in a text.
* `Text.Reader.scan_prefix_append` : a scan of a longer text begins with what is read in its
  beginning, if whatever more text completes was the last thing to read.
-/

namespace Readiness.Text

/-- What can be read at a place of a text, told from the character before the place and the text
behind it. Reading takes at least one character; its result comes with the text that it leaves. -/
structure Reader (α : Type) where
  read? : (before : Option Char) → (rest : List Char) → Option (α × List Char)
  consumes : ∀ before rest a after, read? before rest = some (a, after) →
    ∃ taken, taken ≠ [] ∧ rest = taken ++ after

namespace Reader
variable {α : Type}

/-- All that is read in a text from left to right without overlap, where the first `skip` characters
of the text were taken by what was read last. -/
def scan (r : Reader α) : (skip : Nat) → (before : Option Char) → List Char → List α
  | _, _, [] => []
  | skip + 1, _, x :: xs => r.scan skip (some x) xs
  | 0, before, x :: xs =>
    match r.read? before (x :: xs) with
    | none => r.scan 0 (some x) xs
    | some (a, after) => a :: r.scan (xs.length - after.length) (some x) xs

/-- All that is read in a whole text. -/
def scanAll (r : Reader α) (text : List Char) : List α := r.scan 0 none text

variable {r : Reader α} {before : Option Char} {x : Char} {xs after : List Char} {a : α}

theorem scan_of_none (h : r.read? before (x :: xs) = none) :
    r.scan 0 before (x :: xs) = r.scan 0 (some x) xs := by
  rw [scan, h]

theorem scan_of_some (h : r.read? before (x :: xs) = some (a, after)) :
    r.scan 0 before (x :: xs) = a :: r.scan (xs.length - after.length) (some x) xs := by
  rw [scan, h]

theorem read?_nil (r : Reader α) (before : Option Char) : r.read? before [] = none := by
  cases h : r.read? before [] with
  | none => rfl
  | some hit =>
    obtain ⟨taken, hne, hrest⟩ := r.consumes before [] hit.1 hit.2 h
    exact absurd (List.append_eq_nil_iff.mp hrest.symm).1 hne

/-! ## More text -/

/-- Whether more text behind changes only what is read last: it keeps what can be read in front of
it, and completes something only where there is nothing else to read from there on. -/
structure Keeps (r : Reader α) (more : List Char) : Prop where
  kept : ∀ before rest a after, r.read? before rest = some (a, after) →
    r.read? before (rest ++ more) = some (a, after ++ more)
  last : ∀ before rest, r.read? before rest = none → (r.read? before (rest ++ more)).isSome →
    ∀ tail before', tail <:+ rest → r.read? before' tail = none

theorem scan_eq_nil (h : ∀ tail before', tail <:+ xs → r.read? before' tail = none) (skip : Nat) :
    r.scan skip before xs = [] := by
  induction xs generalizing skip before with
  | nil => rw [scan]
  | cons x xs ih =>
    have hrest := fun tail before' htail =>
      h tail before' (List.IsSuffix.trans htail (List.suffix_cons x xs))
    cases skip with
    | zero =>
      rw [scan_of_none (h (x :: xs) before (List.suffix_refl _))]
      exact ih hrest 0
    | succ skip =>
      rw [scan]
      exact ih hrest skip

/-- **What is read in the beginning of a text is read first.** -/
theorem scan_prefix_append {more : List Char} (h : r.Keeps more) (skip : Nat) :
    r.scan skip before xs <+: r.scan skip before (xs ++ more) := by
  induction xs generalizing skip before with
  | nil =>
    rw [scan]
    exact List.nil_prefix
  | cons x xs ih =>
    rw [List.cons_append]
    cases skip with
    | succ skip =>
      rw [scan, scan]
      exact ih skip
    | zero =>
      cases hread : r.read? before (x :: xs) with
      | some hit =>
        obtain ⟨a, after⟩ := hit
        have hmore := h.kept before (x :: xs) a after hread
        rw [List.cons_append] at hmore
        have hskip : (xs ++ more).length - (after ++ more).length = xs.length - after.length := by
          rw [List.length_append, List.length_append, Nat.add_sub_add_right]
        rw [scan_of_some hread, scan_of_some hmore, hskip]
        exact List.cons_prefix_cons.mpr ⟨rfl, ih _⟩
      | none =>
        cases hmore : r.read? before (x :: (xs ++ more)) with
        | none =>
          rw [scan_of_none hread, scan_of_none hmore]
          exact ih 0
        | some hit =>
          have hlast := h.last before (x :: xs) hread (by rw [List.cons_append, hmore]; rfl)
          rw [scan_eq_nil hlast]
          exact List.nil_prefix

end Reader

end Readiness.Text
