import Readiness.Proofs.Pattern.Overlap
import Readiness.Proofs.ReservedPath.Literal

/-!
# Reserved paths, segment by segment

The quote marks cut a text into segments, and the search for reserved paths selects some of those
that have a mark on both sides. A match uses up both of its marks, so that the segment directly
behind a selected one is never selected.

* `ReservedPath.select` : the selection.
* `ReservedPath.map_text_search` : the search finds what is selected.
* `ReservedPath.scan_selects` : the scan of a text by segments, and why a path is left.
* `ReservedPath.places_between_marks` : what surrounds the paths that are found.
-/

namespace Readiness.ReservedPath

/-! ## The selection -/

/-- The segments of a text that have a mark on both sides. -/
def interior (text : List Char) : List (List Char) := (text.splitOnP isMark).tail.dropLast

/-- The selected ones among segments in a row; `used` says whether the one before them was
selected. -/
def select : (used : Bool) → List (List Char) → List (List Char)
  | _, [] => []
  | used, s :: ss => if !used && isReserved s then s :: select true ss else select false ss

theorem select_cons_of_reserved {s : List Char} (h : isReserved s) (ss : List (List Char)) :
    select false (s :: ss) = s :: select true ss := by
  rw [select, h]
  rfl

theorem select_cons_of_not_reserved {s : List Char} (h : ¬ isReserved s) (ss : List (List Char)) :
    select false (s :: ss) = select false ss := by
  rw [select, if_neg (by simpa using h)]

theorem select_true_dropLast (ss : List (List Char)) :
    select true ss.dropLast = select false ss.tail.dropLast := by
  match ss with
  | [] => rfl
  | [_] => rfl
  | s :: t :: ts =>
    rw [List.dropLast_cons_cons, List.tail_cons, select, Bool.not_true, Bool.false_and,
      if_neg Bool.false_ne_true]

theorem plain_or_exists_mark (text : List Char) :
    IsPlain text ∨ ∃ s x t, text = s ++ x :: t ∧ IsPlain s ∧ isMark x := by
  induction text with
  | nil => exact .inl fun x hx => absurd hx List.not_mem_nil
  | cons c text ih =>
    by_cases hc : isMark c
    · exact .inr ⟨[], c, text, rfl, fun x hx => absurd hx List.not_mem_nil, hc⟩
    · rw [Bool.not_eq_true] at hc
      rcases ih with h | ⟨s, x, t, rfl, hs, hx⟩
      · exact .inl (List.forall_mem_cons.mpr ⟨hc, h⟩)
      · exact .inr ⟨c :: s, x, t, rfl, List.forall_mem_cons.mpr ⟨hc, hs⟩, hx⟩

theorem interior_of_plain {text : List Char} (h : IsPlain text) : interior text = [] := by
  rw [interior, List.splitOnP_eq_singleton h]
  rfl

theorem interior_append_mark {s t : List Char} {x : Char} (hs : IsPlain s) (hx : isMark x) :
    interior (s ++ x :: t) = (t.splitOnP isMark).dropLast := by
  rw [interior, List.splitOnP_append_cons_of_forall_mem hs x hx, List.tail_cons]

/-! ## The search -/

variable {last : Option Nat} {offset : Nat} {before : Option Char}

theorem match?_of_no_mark {c : Cursor} (h : ∀ x ∈ c.rest.head?, isMark x = false) :
    literal.match? c = none := by
  cases hmatch : literal.match? c with
  | none => rfl
  | some hit =>
    obtain ⟨opening, closing, hit⟩ := isHit_of_match? hmatch
    have hfirst := h opening (by rw [hit.rest_eq]; rfl)
    rw [hit.opening_mark] at hfirst
    cases hfirst

theorem search_plain {s : List Char} (hs : IsPlain s) (rest : List Char) :
    search literal.match? last offset before (s ++ rest) =
      search literal.match? last (offset + s.length) (s.getLast?.or before) rest := by
  refine search_append fun u v huv hv => ?_
  obtain ⟨x, v, rfl⟩ := List.exists_cons_of_ne_nil hv
  refine tryAt_of_eq_none (match?_of_no_mark fun y hy => hs y ?_)
  rw [Cursor.after, List.cons_append, List.head?_cons, Option.mem_some_iff] at hy
  rw [huv, ← hy]
  exact List.mem_append_right u List.mem_cons_self

theorem tryAt_eq_match? {c : Cursor} (hlast : ∀ l ∈ last, l ≤ c.offset) :
    tryAt literal.match? last c = literal.match? c := by
  cases hmatch : literal.match? c with
  | none => exact tryAt_of_eq_none hmatch
  | some hit =>
    refine tryAt_eq_some_iff.mpr ⟨hmatch, fun l hl => ⟨hlast l hl, fun hempty => ?_⟩⟩
    obtain ⟨opening, closing, hit⟩ := isHit_of_match? hmatch
    have hstart := hit.start_eq
    have hstop := hit.stop_eq
    have hend := hit.end_eq
    omega

theorem select_of_match?_eq_none {x : Char} {t : List Char} (hx : isMark x)
    (h : literal.match? ⟨offset, before, x :: t⟩ = none) :
    select false (t.splitOnP isMark).dropLast = select false (interior t) := by
  rcases plain_or_exists_mark t with ht | ⟨s, y, u, rfl, hs, hy⟩
  · rw [interior_of_plain ht, List.splitOnP_eq_singleton ht]
    rfl
  · have hreserved : ¬ isReserved s := by
      intro hs'
      obtain ⟨p, d, hmatch, -⟩ := exists_match? (c := ⟨offset, before, x :: (s ++ y :: u)⟩) hx hy hs
        hs' rfl
      rw [h] at hmatch
      cases hmatch
    rw [interior_append_mark hs hy, List.splitOnP_append_cons_of_forall_mem hs y hy,
      List.dropLast_cons_of_ne_nil (List.splitOnP_ne_nil _ _),
      select_cons_of_not_reserved hreserved]

/-- **The search finds what is selected.** The induction is on the length of the text: one round
goes to the next mark and, at a match, on to the mark that closes it. -/
theorem map_text_search {rest : List Char} (hlast : ∀ l ∈ last, l ≤ offset) :
    (search literal.match? last offset before rest).map Span.text =
      select false (interior rest) := by
  induction hn : rest.length using Nat.strong_induction_on generalizing rest last offset before with
  | _ n ih =>
    rcases plain_or_exists_mark rest with hrest | ⟨s, x, t, rfl, hs, hx⟩
    · have hpass := @search_plain last offset before rest hrest []
      rw [List.append_nil] at hpass
      rw [hpass, interior_of_plain hrest, search, tryAt_eq_match? fun l hl => by
        have := hlast l hl
        simp only
        omega, match?_of_no_mark fun x hx => by cases hx]
      rfl
    · have hlength : (s ++ x :: t).length = s.length + (t.length + 1) := by simp
      have hfree : ∀ l ∈ last, l ≤ offset + s.length := fun l hl =>
        (hlast l hl).trans (Nat.le_add_right _ _)
      rw [search_plain hs, interior_append_mark hs hx, search_cons, tryAt_eq_match? hfree]
      cases hmatch : literal.match? ⟨offset + s.length, s.getLast?.or before, x :: t⟩ with
      | none =>
        rw [select_of_match?_eq_none hx hmatch]
        refine ih t.length (by omega) (fun l hl => ?_) rfl
        exact (hfree l hl).trans (Nat.le_succ _)
      | some hit =>
        obtain ⟨p, d⟩ := hit
        obtain ⟨opening, closing, hit⟩ := isHit_of_match? hmatch
        have ht : t = (p.text ++ [closing]) ++ d.rest := by
          rw [(List.cons.inj hit.rest_eq).2]
          simp
        have hcovered : d.offset = offset + s.length + 1 + (p.text ++ [closing]).length := by
          have hstart := hit.start_eq
          have hstop := hit.stop_eq
          have hend := hit.end_eq
          rw [List.length_append, List.length_singleton]
          simp only at hstart
          omega
        have hshort : d.rest.length < n := by
          rw [← hn, hlength, ht, List.length_append]
          omega
        have hrest := @ih d.rest.length hshort (some d.offset) d.offset
          ((p.text ++ [closing]).getLast?.or (some x)) d.rest (fun l hl => by simp_all) rfl
        rw [Option.map_some, Option.toList_some, List.singleton_append, List.map_cons, lastAfter,
          ht, search_covered hcovered, hrest, List.append_assoc, List.singleton_append,
          List.splitOnP_append_cons_of_forall_mem hit.plain closing hit.closing_mark,
          List.dropLast_cons_of_ne_nil (List.splitOnP_ne_nil _ _),
          select_cons_of_reserved hit.reserved, select_true_dropLast, interior]

/-! ## Places -/

/-- The reserved paths that a scan finds, at their places in the text. -/
def places (text : List Char) : List Span := searchAll literal.match? text

theorem scan_eq_places (file : String) (text : List Char) :
    scan file text = (places text).map fun s => ⟨file, String.ofList s.text⟩ := by
  rw [scan, CapturePattern.captures, List.map_map]
  rfl

theorem map_text_places (text : List Char) :
    (places text).map Span.text = select false (interior text) :=
  map_text_search fun l hl => by cases hl

/-- Whether the reserved path `s` is all of what stands between two marks, of which the first one
comes directly behind `before`. -/
structure StandsBetween (text before s : List Char) (opening closing : Char) : Prop where
  opening_mark : isMark opening
  closing_mark : isMark closing
  plain : IsPlain s
  reserved : isReserved s
  split : ∃ after, text = before ++ opening :: (s ++ closing :: after)

variable {text before s : List Char} {opening closing : Char}

theorem exists_standsBetween {p : Span} (h : p ∈ places text) :
    ∃ before opening closing, StandsBetween text before p.text opening closing ∧
      p.start.offset = before.length + 1 ∧ p.stop.offset = p.start.offset + p.text.length := by
  obtain ⟨before, rest, d, rfl, hmatch⟩ := exists_attempt_of_mem_search h
  obtain ⟨opening, closing, hit⟩ := isHit_of_match? hmatch
  have hrest : rest = opening :: (p.text ++ closing :: d.rest) := hit.rest_eq
  have hstart := hit.start_eq
  simp only [Cursor.after, Nat.zero_add] at hstart
  exact ⟨before, opening, closing, ⟨hit.opening_mark, hit.closing_mark, hit.plain, hit.reserved,
    d.rest, by rw [hrest]⟩, hstart, hit.stop_eq⟩

/-- **A reserved path between two marks is found, unless the first one has closed the path that was
found before.** -/
theorem StandsBetween.mem_places_or_closed (h : StandsBetween text before s opening closing) :
    (∃ p ∈ places text, p.start.offset = before.length + 1 ∧ p.text = s) ∨
      ∃ p ∈ places text, p.stop.offset = before.length := by
  obtain ⟨after, rfl⟩ := h.split
  obtain ⟨p, d, hmatch, htext, -⟩ := exists_match?
    (c := Cursor.after 0 none before (opening :: (s ++ closing :: after))) h.opening_mark
    h.closing_mark h.plain h.reserved rfl
  obtain ⟨_, _, hit⟩ := isHit_of_match? hmatch
  have hstart := hit.start_eq
  have hstop := hit.stop_eq
  have hend := hit.end_eq
  simp only [Cursor.after, Nat.zero_add] at hstart
  have hne : d.offset ≠ 0 + before.length := by omega
  rcases @mem_search_or_overlapped _ _ none _ _ _ _ _ hmatch hne with
    hp | ⟨l, hl, -⟩ | ⟨u, v, ⟨q, e⟩, rfl, hv, hmatch', hq, hlt⟩
  · exact .inl ⟨p, hp, hstart, htext⟩
  · cases hl
  · -- The match that is taken begins at a mark in front, and its own text has no mark in it.
    refine .inr ⟨q, hq, ?_⟩
    obtain ⟨opening', closing', hit'⟩ := isHit_of_match? hmatch'
    obtain ⟨y, v, rfl⟩ := List.exists_cons_of_ne_nil hv
    have hrest := hit'.rest_eq
    simp only [Cursor.after, List.cons_append, List.cons.injEq] at hrest
    have hle := hit'.plain.length_le h.opening_mark hrest.2
    have hstart' := hit'.start_eq
    have hstop' := hit'.stop_eq
    have hend' := hit'.end_eq
    simp only [Cursor.after, Nat.zero_add] at hstart'
    simp only [List.length_append, List.length_cons] at hlt ⊢
    omega

/-! ## The scan of a text -/

/-- **A scan goes by segments.** It finds the selected ones among the segments that have marks on
both sides. Each of them is a piece of the text without marks, they stand in the text in their
order, and a reserved path between two marks is left only where the mark before it has closed one
that was found. -/
theorem scan_selects (file : String) (text : List Char) :
    scan file text = (select false (interior text)).map (fun s => ⟨file, String.ofList s⟩) ∧
      (∀ u ∈ scan file text, IsPlain u.literal.toList ∧ u.literal.toList <:+: text) ∧
      Text.InOrder ((scan file text).map (·.literal.toList)) text ∧
      (scan file text = (places text).map fun s => ⟨file, String.ofList s.text⟩) ∧
      ∀ before s opening closing, StandsBetween text before s opening closing →
        (∃ p ∈ places text, p.start.offset = before.length + 1 ∧ p.text = s) ∨
          ∃ p ∈ places text, p.stop.offset = before.length := by
  refine ⟨?_, ?_, ?_, scan_eq_places file text, fun before s opening closing h =>
    h.mem_places_or_closed⟩
  · rw [scan_eq_places, ← map_text_places, List.map_map]
    rfl
  · intro u hu
    rw [scan_eq_places] at hu
    obtain ⟨p, hp, rfl⟩ := List.mem_map.mp hu
    obtain ⟨before, opening, closing, hstands, -⟩ := exists_standsBetween hp
    obtain ⟨after, htext⟩ := hstands.split
    rw [String.toList_ofList]
    refine ⟨hstands.plain, before ++ [opening], closing :: after, ?_⟩
    rw [htext]
    simp
  · have horder := literal.inOrder_captures text
    rw [scan, List.map_map]
    simpa [Function.comp_def] using horder

/-- Three paths in a row that share the marks between them. -/
def sharedMarks : List Char := "\"/proc/1'/sys/2\"/proc/3'".toList

/-- The second path is left, as the mark before it closes the first one, and the third one is
found. -/
theorem scan_selects_sample :
    scan "a.c" sharedMarks = [⟨"a.c", "/proc/1"⟩, ⟨"a.c", "/proc/3"⟩] ∧
      StandsBetween sharedMarks "\"/proc/1".toList "/sys/2".toList '\'' '"' ∧
      ∃ p ∈ places sharedMarks, p.stop.offset = 8 := by
  obtain ⟨hselect, -, -, hplaces, hleft⟩ := scan_selects "a.c" sharedMarks
  have hscan : scan "a.c" sharedMarks = [⟨"a.c", "/proc/1"⟩, ⟨"a.c", "/proc/3"⟩] := by
    rw [hselect]
    decide +kernel
  have hstands : StandsBetween sharedMarks "\"/proc/1".toList "/sys/2".toList '\'' '"' :=
    ⟨rfl, rfl, by simp [IsPlain, isMark], by decide +kernel, "/proc/3'".toList, by decide +kernel⟩
  refine ⟨hscan, hstands, ?_⟩
  rcases hleft _ _ _ _ hstands with ⟨p, hp, -, htext⟩ | hclosed
  · have hfound : ⟨"a.c", String.ofList p.text⟩ ∈ scan "a.c" sharedMarks := by
      rw [hplaces]
      exact List.mem_map_of_mem hp
    rw [hscan, htext] at hfound
    exact absurd hfound (by decide +kernel)
  · exact hclosed

/-! ## The marks around a path -/

/-- **What is found stands between two marks**, and nothing else stands there. If all marks of the
text are alike, it is the complete content of a quotation. Otherwise the marks may differ: a path
behind the first mark of the text is found whichever the two marks around it are, and ends at the
second one. -/
theorem places_between_marks (text : List Char) :
    (∀ file, scan file text = (places text).map fun s => ⟨file, String.ofList s.text⟩) ∧
      (∀ p ∈ places text, ∃ before opening closing,
        StandsBetween text before p.text opening closing ∧ p.start.offset = before.length + 1 ∧
          ((∀ x ∈ text, isMark x → x = opening) → closing = opening)) ∧
      ∀ before s opening closing, StandsBetween text before s opening closing → IsPlain before →
        ∃ p ∈ places text, p.start.offset = before.length + 1 ∧ p.text = s := by
  refine ⟨fun file => scan_eq_places file text, ?_, ?_⟩
  · intro p hp
    obtain ⟨before, opening, closing, hstands, hstart, -⟩ := exists_standsBetween hp
    refine ⟨before, opening, closing, hstands, hstart, fun hsame => ?_⟩
    obtain ⟨after, htext⟩ := hstands.split
    refine hsame closing ?_ hstands.closing_mark
    rw [htext]
    simp
  · intro before s opening closing h hbefore
    rcases h.mem_places_or_closed with hfound | ⟨p, hp, hstop⟩
    · exact hfound
    · -- There is no mark in front that could have been closed.
      obtain ⟨before', opening', closing', hstands, hstart', hstop'⟩ := exists_standsBetween hp
      obtain ⟨after, htext⟩ := h.split
      obtain ⟨after', htext'⟩ := hstands.split
      have hle := hbefore.length_le hstands.opening_mark (htext'.symm.trans htext)
      omega

/-- A path in double quotes with an apostrophe in it. -/
def pathWithApostrophe : List Char := ['"', '/', 'p', 'r', 'o', 'c', '/', 'a', '\'', 'b', '"']

/-- The path is found up to the apostrophe. -/
theorem places_between_marks_sample :
    StandsBetween pathWithApostrophe [] ['/', 'p', 'r', 'o', 'c', '/', 'a'] '"' '\'' ∧
      ∃ p ∈ places pathWithApostrophe, p.start.offset = 1 ∧
        p.text = ['/', 'p', 'r', 'o', 'c', '/', 'a'] := by
  have hstands :
      StandsBetween pathWithApostrophe [] ['/', 'p', 'r', 'o', 'c', '/', 'a'] '"' '\'' :=
    ⟨rfl, rfl, by simp [IsPlain, isMark], by decide +kernel, ['b', '"'], rfl⟩
  obtain ⟨-, -, hfound⟩ := places_between_marks pathWithApostrophe
  exact ⟨hstands, hfound _ _ _ _ hstands fun x hx => by cases hx⟩

/-- A double quote, a path and an apostrophe. -/
def mixedMarks : List Char := ['"', '/', 'p', 'r', 'o', 'c', '/', 'a', '\'']

/-- What is found need not be the content of a quotation: the two marks around it may differ. -/
theorem marks_may_differ : ¬ ∀ file text, ∀ u ∈ scan file text, ∃ before mark after,
    isMark mark ∧ text = before ++ mark :: (u.literal.toList ++ mark :: after) := by
  intro h
  have hfound : ⟨"a.c", String.ofList ['/', 'p', 'r', 'o', 'c', '/', 'a']⟩ ∈
      scan "a.c" mixedMarks := by
    have hselect : ['/', 'p', 'r', 'o', 'c', '/', 'a'] ∈ select false (interior mixedMarks) := by
      decide +kernel
    rw [scan_eq_places]
    rw [← map_text_places, List.mem_map] at hselect
    obtain ⟨p, hp, htext⟩ := hselect
    exact List.mem_map.mpr ⟨p, hp, by rw [htext]⟩
  obtain ⟨before, mark, after, -, htext⟩ := h _ _ _ hfound
  rw [String.toList_ofList] at htext
  have hlength := congrArg List.length htext
  simp only [mixedMarks, List.length_append, List.length_cons, List.length_nil] at hlength
  obtain rfl := List.length_eq_zero_iff.mp (show before.length = 0 by omega)
  simp only [mixedMarks, List.nil_append, List.cons_append, List.cons.injEq, true_and] at htext
  obtain ⟨hopening, hclosing, -⟩ := htext
  rw [← hopening] at hclosing
  simp at hclosing

end Readiness.ReservedPath
