import Readiness.Proofs.Pattern.Capture
import Readiness.Proofs.Text.Scan

/-!
# Searches as scans

A search by a pattern finds what a scan of the text reads, if at each place the pattern matches just
where the reader reads something, and ends where the reader ends. As a reader takes at least one
character, the special care of a search for empty matches does not matter.

* `map_search_eq_scan` : a search as a scan.
* `Pattern.count_eq_length_scanAll`, `CapturePattern.captures_eq_scanAll` : the same for whole
  texts.
-/

namespace Readiness

variable {α β : Type} {attempt : Cursor → Option (α × Cursor)} {f : α → β} {r : Text.Reader β}

/-- Whether an attempt finds at each cursor what the reader reads there, and ends where it ends. -/
structure Realizes (attempt : Cursor → Option (α × Cursor)) (f : α → β) (r : Text.Reader β) :
    Prop where
  read?_eq : ∀ c, (attempt c).map (fun hit => (f hit.1, hit.2.rest)) = r.read? c.before c.rest
  leads : ∀ c a d, attempt c = some (a, d) → c.Leads d

namespace Realizes

theorem offset_lt (h : Realizes attempt f r) {c d : Cursor} {a : α}
    (hattempt : attempt c = some (a, d)) : c.offset < d.offset := by
  have hread := h.read?_eq c
  rw [hattempt, Option.map_some] at hread
  obtain ⟨taken, hne, hrest⟩ := r.consumes _ _ _ _ hread.symm
  obtain ⟨between, hbetween, hoffset⟩ := h.leads c a d hattempt
  have hsame := List.append_cancel_right (hrest.symm.trans hbetween)
  have hpos := List.length_pos_of_ne_nil hne
  rw [hsame] at hpos
  omega

theorem tryAt_eq (h : Realizes attempt f r) {last : Option Nat} {c : Cursor}
    (hlast : last.getD 0 ≤ c.offset) : tryAt attempt last c = attempt c := by
  cases hattempt : attempt c with
  | none => simp [tryAt, hattempt]
  | some hit =>
    have hlt := h.offset_lt hattempt
    refine tryAt_eq_some_iff.mpr ⟨hattempt, fun l hl => ⟨?_, fun hempty => by omega⟩⟩
    rw [Option.mem_def.mp hl] at hlast
    exact hlast

/-- **A search finds what a scan reads.** The scan still passes over the rest of the last hit. -/
theorem map_search_eq_scan (h : Realizes attempt f r) (rest : List Char) :
    ∀ (last : Option Nat) (offset : Nat) (before : Option Char),
      (search attempt last offset before rest).map f =
        r.scan (last.getD 0 - offset) before rest := by
  induction rest with
  | nil =>
    intro last offset before
    have hnone : attempt ⟨offset, before, []⟩ = none := by
      have hread := h.read?_eq ⟨offset, before, []⟩
      rw [r.read?_nil, Option.map_eq_none_iff] at hread
      exact hread
    rw [search, Text.Reader.scan]
    simp [tryAt, hnone]
  | cons x xs ih =>
    intro last offset before
    have hnext : last.getD 0 - (offset + 1) = last.getD 0 - offset - 1 := by omega
    cases hskip : last.getD 0 - offset with
    | succ skip =>
      have hblocked : tryAt attempt last ⟨offset, before, x :: xs⟩ = none := by
        cases last with
        | none => simp at hskip
        | some l =>
          have hlt : offset < l := by simp only [Option.getD_some] at hskip; omega
          simp [tryAt, hlt]
      rw [search, hblocked, Text.Reader.scan]
      show (search attempt last (offset + 1) (some x) xs).map f = _
      rw [ih, hnext, hskip, Nat.add_sub_cancel]
    | zero =>
      have hfree : tryAt attempt last ⟨offset, before, x :: xs⟩ =
          attempt ⟨offset, before, x :: xs⟩ :=
        h.tryAt_eq (Nat.le_of_sub_eq_zero hskip)
      have hread := h.read?_eq ⟨offset, before, x :: xs⟩
      rw [search, hfree]
      cases hattempt : attempt ⟨offset, before, x :: xs⟩ with
      | none =>
        rw [hattempt] at hread
        rw [Text.Reader.scan_of_none hread.symm]
        show (search attempt last (offset + 1) (some x) xs).map f = _
        rw [ih, hnext, hskip]
      | some hit =>
        obtain ⟨a, d⟩ := hit
        rw [hattempt] at hread
        rw [Text.Reader.scan_of_some hread.symm]
        obtain ⟨between, hrest, hoffset⟩ := h.leads _ a d hattempt
        have hpos := h.offset_lt hattempt
        have hlength := congrArg List.length hrest
        simp only [List.length_cons, List.length_append] at hlength hoffset hpos
        show f a :: (search attempt (some d.offset) (offset + 1) (some x) xs).map f = _
        rw [ih, Option.getD_some, show d.offset - (offset + 1) = xs.length - d.rest.length by omega]

end Realizes

/-- The match at a cursor and its end, as a search tries it. -/
def Pattern.spanAt? (p : Pattern) (c : Cursor) : Option (Span × Cursor) :=
  (p.end? c).map fun d => (⟨c, d⟩, d)

theorem Pattern.count_eq_length_search (p : Pattern) (text : List Char) :
    p.count text = (search p.spanAt? none 0 none text).length := rfl

/-- **Matches are counted by a scan.** -/
theorem Pattern.count_eq_length_scanAll {p : Pattern} {f : Cursor → β} {r : Text.Reader β}
    (h : ∀ c, (p.end? c).map (fun d => (f c, d.rest)) = r.read? c.before c.rest)
    (text : List Char) :
    p.count text = (r.scanAll text).length := by
  have hreal : Realizes p.spanAt? (fun span => f span.start) r := by
    refine ⟨fun c => ?_, fun c a d hd => ?_⟩
    · rw [spanAt?, Option.map_map]
      exact h c
    · obtain ⟨e, he, heq⟩ := Option.map_eq_some_iff.mp hd
      cases heq
      exact leads_of_mem_ends (List.mem_of_mem_head? he)
  have hscan := hreal.map_search_eq_scan text none 0 none
  rw [count_eq_length_search, Text.Reader.scanAll, ← List.length_map (fun span => f span.start),
    hscan]
  rfl

/-- **Captured parts are read by a scan.** -/
theorem CapturePattern.captures_eq_scanAll {p : CapturePattern} {r : Text.Reader (List Char)}
    (h : ∀ c, (p.match? c).map (fun hit => (hit.1.text, hit.2.rest)) = r.read? c.before c.rest)
    (text : List Char) : p.captures text = r.scanAll text := by
  refine Realizes.map_search_eq_scan ⟨h, fun c s d hd => ?_⟩ text none 0 none
  obtain ⟨hlead, hpart, htail⟩ := p.captures_match? c s d hd
  exact (hlead.trans hpart).trans htail

end Readiness
