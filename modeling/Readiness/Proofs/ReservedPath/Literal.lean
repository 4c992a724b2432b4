import Readiness.Proofs.Pattern.Capture
import Readiness.Proofs.Pattern.Sequence
import Readiness.ReservedPath

/-!
# Matches of the reserved literal

What the pattern for quoted reserved paths matches: a quote mark, a reserved path that has no quote
mark in it, and the next quote mark, of whichever kind.

* `ReservedPath.isReserved` : the paths in question.
* `ReservedPath.IsHit` : a match, told from the text at its place.
* `ReservedPath.isHit_of_match?`, `ReservedPath.exists_match?` : the pattern has just these matches.
-/

namespace Readiness.ReservedPath

open Cursor

/-! ## Marks and paths -/

/-- Whether the character opens or closes a quotation. -/
def isMark (x : Char) : Bool := x == '"' || x == '\''

theorem has_quoteMark (x : Char) : quoteMark.has x = isMark x := by
  simp [quoteMark, CharSet.ofList, CharSet.has, isMark]

/-- The trees whose paths are reserved. -/
def trees : List (List Char) := [['/', 'p', 'r', 'o', 'c', '/'], ['/', 's', 'y', 's', '/']]

/-- Whether the text is a path into a reserved tree that goes on behind the name of the tree. -/
def isReserved (s : List Char) : Bool :=
  trees.any fun tree => tree.isPrefixOf s && tree.length < s.length

theorem isReserved_iff {s : List Char} :
    isReserved s ↔ ∃ tree ∈ trees, ∃ more, more ≠ [] ∧ s = tree ++ more := by
  simp only [isReserved, List.any_eq_true, Bool.and_eq_true, List.isPrefixOf_iff_prefix,
    decide_eq_true_eq]
  refine exists_congr fun tree => and_congr_right fun _ => ?_
  constructor
  · rintro ⟨⟨more, rfl⟩, hlt⟩
    refine ⟨more, ?_, rfl⟩
    rintro rfl
    simp at hlt
  · rintro ⟨more, hne, rfl⟩
    have hpos := List.length_pos_of_ne_nil hne
    refine ⟨List.prefix_append tree more, ?_⟩
    rw [List.length_append]
    omega

/-- Whether there is no quote mark in the text. -/
def IsPlain (s : List Char) : Prop := ∀ x ∈ s, isMark x = false

theorem IsPlain.length_le {s t u v : List Char} {x y : Char} (hs : IsPlain s) (hx : isMark x)
    (h : t ++ x :: u = s ++ y :: v) : s.length ≤ t.length := by
  by_contra hlt
  have hget : (t ++ x :: u)[t.length]? = some x := by
    rw [List.getElem?_append_right (Nat.le_refl _), Nat.sub_self]
    rfl
  rw [h, List.getElem?_append_left (by omega)] at hget
  have hplain := hs x (List.mem_of_getElem? hget)
  rw [hx] at hplain
  cases hplain

theorem IsPlain.append_cons_inj {s t u v : List Char} {x y : Char} (hs : IsPlain s)
    (ht : IsPlain t) (hx : isMark x) (hy : isMark y) (h : s ++ x :: u = t ++ y :: v) :
    s = t ∧ x = y ∧ u = v := by
  have hlength : s.length = t.length :=
    Nat.le_antisymm (hs.length_le hy h.symm) (ht.length_le hx h)
  obtain ⟨hst, hrest⟩ := List.append_inj h hlength
  exact ⟨hst, List.cons.inj hrest⟩

/-! ## One match -/

/-- Whether a match begins at `c`, captures `s` and ends at `d`: a mark, the captured path, which is
reserved and has no mark in it, and the next mark. -/
structure IsHit (c : Cursor) (s : Span) (d : Cursor) (opening closing : Char) : Prop where
  opening_mark : isMark opening
  closing_mark : isMark closing
  plain : IsPlain s.text
  reserved : isReserved s.text
  rest_eq : c.rest = opening :: (s.text ++ closing :: d.rest)
  start_eq : s.start.offset = c.offset + 1
  stop_eq : s.stop.offset = s.start.offset + s.text.length
  end_eq : d.offset = s.stop.offset + 1

variable {c d e : Cursor}

theorem exists_tree_of_mem_ends_inner (h : e ∈ literal.inner.ends c) :
    ∃ tree ∈ trees, ∃ k : Cursor, c.rest = tree ++ k.rest ∧ k.offset = c.offset + tree.length ∧
      e ∈ k.runEnds (.compl quoteMark) 1 none true := by
  rw [literal, Pattern.ends_sequence] at h
  simp only [List.foldl_cons, List.foldl_nil] at h
  obtain ⟨k, h, he⟩ := Pattern.mem_follow h
  obtain ⟨b, h, hk⟩ := Pattern.mem_follow h
  obtain ⟨a, h, hb⟩ := Pattern.mem_follow h
  obtain ⟨z, hz, ha⟩ := Pattern.mem_follow h
  obtain rfl := List.mem_singleton.mp hz
  rw [Pattern.ends_char, Option.mem_toList] at ha hk
  obtain ⟨haoffset, x, hx, harest⟩ := past?_eq_some ha
  obtain ⟨hkoffset, y, hy, hkrest⟩ := past?_eq_some hk
  simp only [CharSet.has, beq_iff_eq] at hx hy
  subst hx hy
  have hname : ∀ name : List Char, b ∈ (Pattern.text name).ends a →
      z.rest = '/' :: (name ++ '/' :: k.rest) ∧ k.offset = z.offset + (name.length + 2) := by
    intro name hb
    rw [Pattern.ends_text, Option.mem_toList] at hb
    obtain ⟨hbrest, hboffset⟩ := skip?_eq_some hb
    refine ⟨by rw [harest, hbrest, hkrest], ?_⟩
    omega
  rw [Pattern.ends, List.mem_append] at hb
  rcases hb with hb | hb
  · obtain ⟨hrest, hoffset⟩ := hname _ hb
    exact ⟨_, List.mem_cons_self, k, hrest, hoffset, he⟩
  · obtain ⟨hrest, hoffset⟩ := hname _ hb
    exact ⟨_, List.mem_cons_of_mem _ List.mem_cons_self, k, hrest, hoffset, he⟩

theorem isHit_of_match? {s : Span} (h : literal.match? c = some (s, d)) :
    ∃ opening closing, IsHit c s d opening closing := by
  obtain ⟨start, hstart, h⟩ := List.exists_of_findSome?_eq_some h
  obtain ⟨stop, hstop, h⟩ := List.exists_of_findSome?_eq_some h
  obtain ⟨last, hlast, h⟩ := Option.map_eq_some_iff.mp h
  cases h
  replace hlast := List.mem_of_mem_head? hlast
  rw [literal, Pattern.ends_char, Option.mem_toList] at hstart hlast
  obtain ⟨hstartOffset, opening, hopening, hcrest⟩ := past?_eq_some hstart
  obtain ⟨hlastOffset, closing, hclosing, hstopRest⟩ := past?_eq_some hlast
  obtain ⟨tree, htree, k, hstartRest, hkoffset, hrun⟩ := exists_tree_of_mem_ends_inner hstop
  obtain ⟨m, hne, hkrest, hm, hstopOffset⟩ := of_mem_runEnds hrun
  have htext : Span.text ⟨start, stop⟩ = tree ++ m := by
    have hlength : stop.offset - start.offset = (tree ++ m).length := by
      rw [List.length_append]
      omega
    rw [Span.text, textTo, hlength, hstartRest, hkrest, ← List.append_assoc, List.take_left]
  have hplain : IsPlain (tree ++ m) := by
    intro x hx
    rcases List.mem_append.mp hx with hx | hx
    · have htrees : ∀ tree ∈ trees, ∀ x ∈ tree, isMark x = false := by simp [trees, isMark]
      exact htrees tree htree x hx
    · have hset := hm x hx
      rw [CharSet.has, has_quoteMark] at hset
      simpa using hset
  rw [has_quoteMark] at hopening hclosing
  refine ⟨opening, closing, hopening, hclosing, ?_, ?_, ?_, hstartOffset, ?_, hlastOffset⟩
  · rwa [htext]
  · rw [htext]
    exact isReserved_iff.mpr ⟨tree, htree, m, hne, rfl⟩
  · rw [htext, hcrest, hstartRest, hkrest, hstopRest, List.append_assoc]
  · rw [htext, List.length_append]
    show stop.offset = start.offset + _
    omega

theorem ends_inner_of_tree {tree more : List Char} (htree : tree ∈ trees) (offset : Nat)
    (before : Option Char) : literal.inner.ends ⟨offset, before, tree ++ more⟩ =
      runEnds (.compl quoteMark) 1 none true ⟨offset + tree.length, some '/', more⟩ := by
  rcases List.mem_cons.mp htree with rfl | htree
  · rfl
  · rcases List.mem_singleton.mp htree with rfl
    rfl

theorem exists_match? {s rest : List Char} {opening closing : Char} (hopening : isMark opening)
    (hclosing : isMark closing) (hplain : IsPlain s) (hreserved : isReserved s)
    (h : c.rest = opening :: (s ++ closing :: rest)) :
    ∃ p d, literal.match? c = some (p, d) ∧ p.text = s ∧ d.rest = rest := by
  obtain ⟨tree, htree, more, hne, rfl⟩ := isReserved_iff.mp hreserved
  have hmore : ∀ x ∈ more, (CharSet.compl quoteMark).has x := by
    intro x hx
    rw [CharSet.has, has_quoteMark, hplain x (List.mem_append_right tree hx)]
    rfl
  have hstart : literal.lead.ends c =
      [⟨c.offset + 1, some opening, tree ++ (more ++ closing :: rest)⟩] := by
    rw [literal, Pattern.ends_char, past?, h, List.append_assoc]
    simp [has_quoteMark, hopening]
  obtain ⟨stop, hstop, hstopRest⟩ := exists_mem_runEnds
    (c := ⟨c.offset + 1 + tree.length, some '/', more ++ closing :: rest⟩) hne hmore rfl
  rw [← ends_inner_of_tree htree (c.offset + 1) (some opening)] at hstop
  have htail : (literal.tail.end? stop).isSome := by
    rw [literal, Pattern.end?, Pattern.ends_char, past?, hstopRest]
    simp [has_quoteMark, hclosing]
  have hsome : (literal.match? c).isSome := by
    rw [CapturePattern.match?, hstart, List.findSome?_isSome_iff]
    refine ⟨_, List.mem_singleton_self _, ?_⟩
    rw [List.findSome?_isSome_iff]
    exact ⟨stop, hstop, by rwa [Option.isSome_map]⟩
  obtain ⟨⟨p, d⟩, hmatch⟩ := Option.isSome_iff_exists.mp hsome
  obtain ⟨opening', closing', hit⟩ := isHit_of_match? hmatch
  have hsame := hit.rest_eq
  rw [h, List.cons.injEq] at hsame
  obtain ⟨htext, -, hrest⟩ := hplain.append_cons_inj hit.plain hclosing hit.closing_mark hsame.2
  exact ⟨p, d, hmatch, htext.symm, hrest.symm⟩

end Readiness.ReservedPath
