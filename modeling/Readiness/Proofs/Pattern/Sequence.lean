import Readiness.Proofs.Pattern.Search

/-!
# Matches of sequences

A sequence of patterns is matched by following the ends of each with the next. Where the ends of
one part stand in descending order, no place is reached twice, and following them by a fixed text
keeps those after which the text stands.

* `Cursor.skip?` : the cursor after a fixed text.
* `Pattern.end?_text` : the matches of a fixed text.
* `Pattern.between` : a fixed text, anything in the same line, and another fixed text.
* `Pattern.ordered_text`, `Pattern.ordered_between` : their matches are ordered.
-/

namespace Readiness

/-! ## Passing over text -/

namespace Cursor

/-- The cursor after a character of the set. -/
def past? (set : CharSet) (c : Cursor) : Option Cursor :=
  match c.rest with
  | [] => none
  | x :: xs => if set.has x then some ⟨c.offset + 1, some x, xs⟩ else none

/-- The cursor after one character of each set, in the order of the sets. -/
def pastAll? : List CharSet → Cursor → Option Cursor
  | [], c => some c
  | set :: sets, c => (c.past? set).bind (pastAll? sets)

/-- The cursor after the text. -/
def skip? : List Char → Cursor → Option Cursor
  | [], c => some c
  | x :: xs, c => (c.past? (.one x)).bind (skip? xs)

theorem skip?_eq_pastAll? (s : List Char) (c : Cursor) : skip? s c = pastAll? (s.map .one) c := by
  induction s generalizing c with
  | nil => rfl
  | cons x xs ih =>
    rw [skip?, List.map_cons, pastAll?]
    exact congrArg (Option.bind _) (funext ih)

variable {c d : Cursor} {s : List Char}

theorem past?_eq_some {set : CharSet} (h : c.past? set = some d) :
    d.offset = c.offset + 1 ∧ ∃ x, set.has x ∧ c.rest = x :: d.rest := by
  rw [past?] at h
  split at h
  · cases h
  · next x xs hrest =>
    split_ifs at h with hset
    cases h
    exact ⟨rfl, x, hset, hrest⟩

theorem skip?_eq_some (h : c.skip? s = some d) :
    c.rest = s ++ d.rest ∧ d.offset = c.offset + s.length := by
  induction s generalizing c with
  | nil => cases h; simp
  | cons x xs ih =>
    rw [skip?, Option.bind_eq_some_iff] at h
    obtain ⟨e, he, h⟩ := h
    obtain ⟨hoffset, y, hy, hrest⟩ := past?_eq_some he
    obtain ⟨hrest', hoffset'⟩ := ih h
    rw [CharSet.has, beq_iff_eq] at hy
    refine ⟨by rw [hrest, hrest', hy, List.cons_append], ?_⟩
    rw [hoffset', hoffset, List.length_cons]
    omega

theorem exists_skip? {rest : List Char} (h : c.rest = s ++ rest) :
    ∃ d, c.skip? s = some d ∧ d.rest = rest := by
  induction s generalizing c with
  | nil => exact ⟨c, rfl, h⟩
  | cons x xs ih =>
    obtain ⟨d, hd, hrest⟩ := ih (c := ⟨c.offset + 1, some x, xs ++ rest⟩) rfl
    refine ⟨d, ?_, hrest⟩
    rw [skip?, past?, h]
    simpa [CharSet.has] using hd

/-! ## Ends in descending order -/

/-- Whether the cursors stand in descending order. -/
def Descending (cs : List Cursor) : Prop := cs.Pairwise fun a b => b.offset < a.offset

theorem Descending.filterMap {cs : List Cursor} (h : Descending cs) (s : List Char) :
    Descending (cs.filterMap (skip? s)) := by
  refine List.Pairwise.filterMap _ (fun a b hab a' ha' b' hb' => ?_) h
  have := (skip?_eq_some ha').2
  have := (skip?_eq_some hb').2
  omega

theorem Descending.filterMap_past? {cs : List Cursor} (h : Descending cs) (set : CharSet) :
    Descending (cs.filterMap (past? set)) := by
  refine List.Pairwise.filterMap _ (fun a b hab a' ha' b' hb' => ?_) h
  have := (past?_eq_some ha').1
  have := (past?_eq_some hb').1
  omega

/-! ## Runs -/

theorem mem_run {set : CharSet} {rest : List Char} {offset : Nat} {before : Option Char}
    (h : d ∈ run set none offset before rest) :
    ∃ m, rest = m ++ d.rest ∧ (∀ x ∈ m, set.has x) ∧ d.offset = offset + m.length := by
  induction rest generalizing offset before with
  | nil =>
    rw [run, List.mem_singleton] at h
    subst h
    exact ⟨[], rfl, by simp, rfl⟩
  | cons x xs ih =>
    rw [run, List.mem_cons] at h
    rcases h with rfl | h
    · exact ⟨[], rfl, by simp, rfl⟩
    · split_ifs at h with hx
      · obtain ⟨m, hrest, hm, hoffset⟩ := ih h
        refine ⟨x :: m, by rw [hrest, List.cons_append], ?_, ?_⟩
        · simpa using ⟨by simpa using hx, hm⟩
        · rw [hoffset, List.length_cons]
          omega
      · cases h

theorem exists_mem_run {set : CharSet} {m rest : List Char} (hm : ∀ x ∈ m, set.has x)
    (offset : Nat) (before : Option Char) :
    ∃ d ∈ run set none offset before (m ++ rest),
      d.rest = rest ∧ d.offset = offset + m.length := by
  induction m generalizing offset before with
  | nil => cases rest <;> exact ⟨_, List.mem_cons_self, rfl, rfl⟩
  | cons x xs ih =>
    obtain ⟨d, hd, hrest, hoffset⟩ :=
      ih (fun y hy => hm y (List.mem_cons_of_mem _ hy)) (offset + 1) (some x)
    refine ⟨d, ?_, hrest, ?_⟩
    · rw [List.cons_append, run, if_pos (by simpa using hm x List.mem_cons_self)]
      exact List.mem_cons_of_mem _ hd
    · rw [hoffset, List.length_cons]
      omega

theorem of_mem_runEnds {set : CharSet} (h : d ∈ c.runEnds set 1 none true) :
    ∃ m, m ≠ [] ∧ c.rest = m ++ d.rest ∧ (∀ x ∈ m, set.has x) ∧
      d.offset = c.offset + m.length := by
  obtain ⟨offset, before, rest⟩ := c
  rw [runEnds, if_pos rfl, List.mem_reverse] at h
  cases rest with
  | nil => simp [run] at h
  | cons x xs =>
    rw [run, List.drop_succ_cons, List.drop_zero] at h
    simp only at h
    split_ifs at h with hx
    · obtain ⟨m, hrest, hm, hoffset⟩ := mem_run h
      refine ⟨x :: m, List.cons_ne_nil x m, by rw [hrest, List.cons_append], ?_, ?_⟩
      · rw [List.forall_mem_cons]
        exact ⟨by simpa using hx, hm⟩
      · show d.offset = offset + (m.length + 1)
        omega
    · cases h

theorem exists_mem_runEnds {set : CharSet} {m rest : List Char} (hne : m ≠ [])
    (hm : ∀ x ∈ m, set.has x) (h : c.rest = m ++ rest) :
    ∃ d ∈ c.runEnds set 1 none true, d.rest = rest := by
  obtain ⟨offset, before, _⟩ := c
  obtain ⟨x, xs, rfl⟩ := List.exists_cons_of_ne_nil hne
  rw [List.forall_mem_cons] at hm
  obtain ⟨d, hd, hrest, -⟩ := @exists_mem_run set xs rest hm.2 (offset + 1) (some x)
  refine ⟨d, ?_, hrest⟩
  simp only at h
  rw [runEnds, if_pos rfl, List.mem_reverse, h, List.cons_append, run, List.drop_succ_cons,
    List.drop_zero, if_pos (by simpa using hm.1)]
  exact hd

theorem pairwise_run (set : CharSet) (rest : List Char) (offset : Nat) (before : Option Char) :
    (run set none offset before rest).Pairwise fun a b => a.offset < b.offset := by
  induction rest generalizing offset before with
  | nil => exact List.pairwise_singleton _ _
  | cons x xs ih =>
    rw [run, List.pairwise_cons]
    split_ifs with hx
    · refine ⟨fun d hd => ?_, ih _ _⟩
      obtain ⟨m, -, -, hoffset⟩ := mem_run hd
      show offset < d.offset
      omega
    · simp

end Cursor

/-! ## Sequences -/

namespace Pattern
open Cursor

theorem ends_sequence (ps : List Pattern) (c : Cursor) :
    (sequence ps).ends c = ps.foldl (fun cs p => follow cs p.ends) [c] := by
  induction ps using List.reverseRecOn with
  | nil => rfl
  | append_singleton ps p ih =>
    rw [List.foldl_append, ← ih]
    rcases List.eq_nil_or_concat ps with rfl | ⟨qs, q, rfl⟩
    · rfl
    · simp [sequence, seqReversed, ends]

theorem distinct_eq_self {cs : List Cursor} (h : cs.Pairwise fun a b => a.offset ≠ b.offset)
    {seen : List Nat} (hseen : ∀ c ∈ cs, c.offset ∉ seen) : distinct seen cs = cs := by
  induction cs generalizing seen with
  | nil => rfl
  | cons c cs ih =>
    rw [List.pairwise_cons] at h
    rw [distinct, if_neg (by simpa using hseen c List.mem_cons_self), ih h.2]
    intro d hd
    rw [List.mem_cons, not_or]
    exact ⟨(h.1 d hd).symm, hseen d (List.mem_cons_of_mem _ hd)⟩

theorem follow_eq_of_descending {cs ds : List Cursor} {next : Cursor → List Cursor}
    (h : cs.flatMap next = ds) (hds : Descending ds) : follow cs next = ds := by
  unfold follow
  split
  · next c =>
    rw [← h]
    simp
  · rw [h, distinct_eq_self (hds.imp fun hab => Nat.ne_of_gt hab) (by simp)]

theorem ends_char (set : CharSet) (c : Cursor) : (char set).ends c = (c.past? set).toList := by
  obtain ⟨offset, before, rest⟩ := c
  cases rest with
  | nil => rfl
  | cons x xs =>
    simp only [ends, past?]
    split_ifs <;> rfl

theorem follow_char {cs : List Cursor} (h : Descending cs) (set : CharSet) :
    follow cs (char set).ends = cs.filterMap (past? set) := by
  refine follow_eq_of_descending ?_ (h.filterMap_past? set)
  rw [List.filterMap_eq_flatMap_toList]
  exact List.flatMap_congr fun c _ => ends_char set c

theorem foldl_follow_sets {cs : List Cursor} (h : Descending cs) (sets : List CharSet) :
    (sets.map Pattern.char).foldl (fun cs p => follow cs p.ends) cs =
      cs.filterMap (pastAll? sets) := by
  induction sets generalizing cs with
  | nil =>
    show cs = cs.filterMap some
    rw [List.filterMap_some]
  | cons set sets ih =>
    rw [List.map_cons, List.foldl_cons, follow_char h, ih (h.filterMap_past? _),
      List.filterMap_filterMap]
    rfl

/-- The patterns of the characters of a text. -/
def chars (s : List Char) : List Pattern := s.map fun x => .char (.one x)

theorem foldl_follow_chars {cs : List Cursor} (h : Descending cs) (s : List Char) :
    (chars s).foldl (fun cs p => follow cs p.ends) cs = cs.filterMap (skip? s) := by
  have hsets : chars s = (s.map CharSet.one).map Pattern.char := by
    rw [chars, List.map_map]
    rfl
  rw [hsets, foldl_follow_sets h]
  exact congrArg (fun f => cs.filterMap f) (funext fun c => (skip?_eq_pastAll? s c).symm)

theorem descending_singleton (c : Cursor) : Descending [c] := List.pairwise_singleton _ _

/-! ## Fixed texts -/

variable {c d : Cursor}

theorem ends_text (s : List Char) (c : Cursor) : (text s).ends c = (c.skip? s).toList := by
  rw [text, ← chars, ends_sequence, foldl_follow_chars (descending_singleton c)]
  cases h : c.skip? s <;> simp [h]

/-- **A fixed text matches where it stands.** -/
theorem end?_text (s : List Char) (c : Cursor) : (text s).end? c = c.skip? s := by
  rw [end?, ends_text]
  cases c.skip? s <;> rfl

theorem ordered_text (s : List Char) : (text s).Ordered := by
  intro c d e e' hcd he he'
  rw [end?_text] at he he'
  rw [(skip?_eq_some he).2, (skip?_eq_some he').2]
  have := hcd.offset_le
  omega

/-! ## Fixed texts in one line -/

/-- One character that does not end a line. -/
def inLine : CharSet := .compl (.one '\n')

theorem has_inLine {x : Char} : inLine.has x ↔ x ≠ '\n' := by simp [inLine, CharSet.has]

/-- A fixed text, as much as possible of the rest of the line, and another fixed text. -/
def between (s t : List Char) : Pattern :=
  sequence (chars s ++ many (.char inLine) :: chars t)

variable {s t : List Char}

/-- The places in the rest of the line, the last one first. -/
def lineEnds (c : Cursor) : List Cursor := (run inLine none c.offset c.before c.rest).reverse

theorem descending_lineEnds (c : Cursor) : Descending (lineEnds c) :=
  List.pairwise_reverse.mpr (pairwise_run _ _ _ _)

theorem ends_between (s t : List Char) (c : Cursor) :
    (between s t).ends c = ((c.skip? s).toList.flatMap lineEnds).filterMap (skip? t) := by
  rw [between, ends_sequence, List.foldl_append, foldl_follow_chars (descending_singleton c),
    List.foldl_cons]
  have hmany : ∀ d, (many (.char inLine)).ends d = lineEnds d := fun d => rfl
  cases h : c.skip? s with
  | none => simpa [h, follow, distinct] using foldl_follow_chars List.Pairwise.nil t
  | some d =>
    simp only [List.filterMap_cons, h, List.filterMap_nil, follow, hmany, Option.toList_some,
      List.flatMap_cons, List.flatMap_nil, List.append_nil]
    exact foldl_follow_chars (descending_lineEnds d) t

theorem descending_ends_between (s t : List Char) (c : Cursor) :
    Descending ((between s t).ends c) := by
  rw [ends_between]
  cases c.skip? s with
  | none => exact List.Pairwise.nil
  | some d =>
    simp only [Option.toList_some, List.flatMap_cons, List.flatMap_nil, List.append_nil]
    exact (descending_lineEnds d).filterMap t

theorem of_mem_ends_between (h : d ∈ (between s t).ends c) :
    ∃ m, c.rest = s ++ (m ++ (t ++ d.rest)) ∧ (∀ x ∈ m, x ≠ '\n') ∧
      d.offset = c.offset + s.length + m.length + t.length := by
  rw [ends_between, List.mem_filterMap] at h
  obtain ⟨e, he, hd⟩ := h
  obtain ⟨k, hk, he⟩ := List.mem_flatMap.mp he
  obtain ⟨hrest, hoffset⟩ := skip?_eq_some (Option.mem_toList.mp hk)
  obtain ⟨m, hrest', hm, hoffset'⟩ := mem_run (List.mem_reverse.mp he)
  obtain ⟨hrest'', hoffset''⟩ := skip?_eq_some hd
  refine ⟨m, by rw [hrest, hrest', hrest''], fun x hx => has_inLine.mp (hm x hx), ?_⟩
  rw [hoffset'', hoffset', hoffset]

theorem exists_mem_ends_between {m rest : List Char} (h : c.rest = s ++ (m ++ (t ++ rest)))
    (hm : ∀ x ∈ m, x ≠ '\n') : ∃ d ∈ (between s t).ends c,
      d.offset = c.offset + s.length + m.length + t.length := by
  obtain ⟨k, hk, hkrest⟩ := exists_skip? h
  have hline : ∀ x ∈ m, inLine.has x := fun x hx => has_inLine.mpr (hm x hx)
  obtain ⟨e, he, herest, heoffset⟩ := @exists_mem_run _ m (t ++ rest) hline k.offset k.before
  obtain ⟨d, hd, -⟩ := exists_skip? herest
  refine ⟨d, ?_, ?_⟩
  · rw [ends_between, List.mem_filterMap]
    refine ⟨e, List.mem_flatMap.mpr ⟨k, Option.mem_toList.mpr hk, ?_⟩, hd⟩
    rw [lineEnds, hkrest]
    exact List.mem_reverse.mpr he
  · rw [(skip?_eq_some hd).2, heoffset, (skip?_eq_some hk).2]

theorem offset_le_of_end?_between {e : Cursor} (he : (between s t).end? c = some e)
    (hd : d ∈ (between s t).ends c) : d.offset ≤ e.offset := by
  have hdesc := descending_ends_between s t c
  rw [end?] at he
  obtain ⟨cs, hcs⟩ := List.head?_eq_some_iff.mp he
  rw [hcs] at hd hdesc
  rcases List.mem_cons.mp hd with rfl | hd
  · exact Nat.le_refl _
  · exact Nat.le_of_lt ((List.pairwise_cons.mp hdesc).1 d hd)

theorem ordered_between (s t : List Char) : (between s t).Ordered := by
  rintro c d e e' ⟨k, hk, hoffset⟩ he he'
  obtain ⟨m, hrest, hm, hend⟩ := of_mem_ends_between (List.mem_of_mem_head? he)
  obtain ⟨m', hrest', -, hend'⟩ := of_mem_ends_between (List.mem_of_mem_head? he')
  by_cases hkm : m.length < k.length
  · omega
  · have hlater : d.rest = s ++ (m.drop k.length ++ (t ++ e.rest)) := by
      have hlength : (k ++ s).length = s.length + k.length := by
        rw [List.length_append, Nat.add_comm]
      have hsame := congrArg (List.drop (s.length + k.length)) (hrest.symm.trans hk)
      rw [hrest', ← List.append_assoc k s, List.drop_left' hlength, ← List.drop_drop,
        List.drop_left, List.drop_append_of_le_length (Nat.not_lt.mp hkm)] at hsame
      rw [hrest', ← hsame]
    obtain ⟨e'', he'', hend''⟩ := exists_mem_ends_between hlater
      fun x hx => hm x (List.mem_of_mem_drop hx)
    have hle := offset_le_of_end?_between he' he''
    rw [List.length_drop] at hend''
    omega

/-! ## Conditions before and after -/

theorem ends_seq_assert (a : Assertion) (p : Pattern) (c : Cursor) :
    (seq (.assert a) p).ends c = if a.holds c.before c.rest.head? then p.ends c else [] := by
  simp only [ends]
  split_ifs <;> rfl

theorem count_seq_assert_le {p : Pattern} (hp : p.Ordered) (a : Assertion) (text : List Char) :
    (seq (.assert a) p).count text ≤ p.count text := by
  refine count_le hp (fun c e he => ⟨e, ?_, rfl⟩) text
  rw [end?, ends_seq_assert] at he
  split_ifs at he with ha
  · exact he
  · cases he

theorem follow_assert {cs : List Cursor} (h : Descending cs) (a : Assertion) :
    follow cs (assert a).ends = cs.filter fun c => a.holds c.before c.rest.head? := by
  refine follow_eq_of_descending ?_ (List.Pairwise.filter _ h)
  clear h
  induction cs with
  | nil => rfl
  | cons c cs ih =>
    rw [List.flatMap_cons, ih, List.filter_cons, ends]
    split_ifs <;> rfl

theorem count_between_asserts_le (a b : Assertion) (s text : List Char) :
    (sequence (.assert a :: chars s ++ [.assert b])).count text ≤ (Pattern.text s).count text := by
  refine count_le (ordered_text s) (fun c e he => ⟨e, ?_, rfl⟩) text
  have hstart : Descending ([c].filter fun c => a.holds c.before c.rest.head?) :=
    (descending_singleton c).filter _
  replace he := List.mem_of_mem_head? he
  rw [ends_sequence, List.cons_append, List.foldl_cons, follow_assert (descending_singleton c),
    List.foldl_append, foldl_follow_chars hstart, List.foldl_cons, List.foldl_nil,
    follow_assert (hstart.filterMap s)] at he
  obtain ⟨d, hd, hskip⟩ := List.mem_filterMap.mp (List.mem_filter.mp he).1
  rw [end?_text, ← List.mem_singleton.mp (List.mem_filter.mp hd).1, hskip]

/-! ## Weights -/

theorem weight_sequence {ps : List Pattern} (h : ps ≠ []) :
    (sequence ps).weight = (ps.map weight).sum := by
  induction ps using List.reverseRecOn with
  | nil => exact absurd rfl h
  | append_singleton ps p ih =>
    rcases List.eq_nil_or_concat ps with rfl | ⟨qs, q, rfl⟩
    · simp [sequence, seqReversed]
    · have hstep : (sequence (qs.concat q ++ [p])).weight =
          (sequence (qs.concat q)).weight + p.weight := by
        simp [sequence, seqReversed, weight]
      rw [hstep, ih (by simp), List.map_append, List.sum_append]
      rfl

theorem weight_text_le (a b : Assertion) (s : List Char) :
    (text s).weight ≤ (sequence (.assert a :: chars s ++ [.assert b])).weight := by
  rw [weight_sequence (by simp)]
  by_cases hs : s = []
  · subst hs
    exact Nat.le_of_ble_eq_true rfl
  · rw [text, ← chars, weight_sequence (by simpa [chars] using hs)]
    simp [weight]
    omega

end Pattern

end Readiness
