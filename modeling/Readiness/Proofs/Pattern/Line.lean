import Readiness.Proofs.Pattern.Occurrences

/-!
# Two texts in one line

The pattern for two texts in one line is found once in each line that has them, and nowhere else: a
match takes all of its line up to the last occurrence of the second text, behind which no other
match can end.

* `Pattern.Links` : what the pattern, with or without a condition before it, matches.
* `Pattern.length_search_line` : a search through one line.
* `Pattern.count_eq_linkedLines` : a search through a text.
-/

namespace Readiness

/-- Whether there is no line feed in the text. -/
def Text.InLine (s : List Char) : Prop := ∀ x ∈ s, x ≠ '\n'

theorem Text.InLine.prefix_of_append {s line rest tail : List Char} (hs : InLine s)
    (htail : ∀ x ∈ tail.head?, x = '\n') (h : line ++ tail = s ++ rest) :
    ∃ more, line = s ++ more ∧ rest = more ++ tail := by
  rcases List.append_eq_append_iff.mp h with ⟨others, rfl, hothers⟩ | ⟨others, rfl, hothers⟩
  · cases others with
    | nil => exact ⟨[], by simp, by simpa using hothers.symm⟩
    | cons x xs =>
      subst hothers
      exact absurd (htail x rfl) (hs x (by simp))
  · exact ⟨others, rfl, hothers⟩

namespace Pattern

open Text

/-! ## The matches -/

/-- Whether the matches of `p` are those of `s`, something in the same line and `t`, behind a
character that satisfies the condition, and go as far as possible. -/
structure Links (p : Pattern) (ok : (before : Option Char) → Bool) (s t : List Char) : Prop where
  sound : ∀ c e, p.end? c = some e → ok c.before ∧ ∃ m, InLine m ∧
    c.rest = s ++ (m ++ (t ++ e.rest)) ∧ e.offset = c.offset + (s.length + m.length + t.length)
  longest : ∀ c m rest, ok c.before → InLine m → c.rest = s ++ (m ++ (t ++ rest)) →
    ∃ e, p.end? c = some e ∧ c.offset + (s.length + m.length + t.length) ≤ e.offset

theorem links_between (s t : List Char) : (between s t).Links (fun _ => true) s t := by
  refine ⟨fun c e he => ⟨rfl, ?_⟩, fun c m rest _ hm hrest => ?_⟩
  · obtain ⟨m, hrest, hm, hoffset⟩ := of_mem_ends_between (List.mem_of_mem_head? he)
    exact ⟨m, hm, hrest, by omega⟩
  · obtain ⟨d, hd, hoffset⟩ := exists_mem_ends_between hrest hm
    cases he : (between s t).end? c with
    | none =>
      rw [end?, List.head?_eq_none_iff] at he
      rw [he] at hd
      cases hd
    | some e =>
      have hle := offset_le_of_end?_between he hd
      exact ⟨e, rfl, by omega⟩

theorem Links.seq_edge {p : Pattern} {x : Char} {s t : List Char}
    (h : p.Links (fun _ => true) (x :: s) t) (hx : Unicode.isWord x) :
    (seq edge p).Links (fun before => !before.any Unicode.isWord) (x :: s) t := by
  have hedge : ∀ (c : Cursor) (rest : List Char), c.rest = x :: s ++ rest →
      isWordEdge c.before c.rest.head? = !c.before.any Unicode.isWord := by
    intro c rest hrest
    rw [hrest]
    simp [isWordEdge, hx]
  refine ⟨fun c e he => ?_, fun c m rest hok hm hrest => ?_⟩
  · rw [end?_seq_edge] at he
    split_ifs at he with hc
    obtain ⟨-, m, hm, hrest, hoffset⟩ := h.sound c e he
    exact ⟨hedge c _ hrest ▸ hc, m, hm, hrest, hoffset⟩
  · rw [end?_seq_edge, hedge c _ hrest, if_pos hok]
    exact h.longest c m rest rfl hm hrest

/-! ## One line -/

section
variable {p : Pattern} {ok : (before : Option Char) → Bool} {s t line tail : List Char}
  {c d e : Cursor}

theorem Links.of_end? (h : p.Links ok s t) (hs : InLine s) (ht : InLine t)
    (htail : ∀ x ∈ tail.head?, x = '\n') (he : p.end? c = some e) (hrest : c.rest = line ++ tail) :
    ok c.before ∧ ∃ m more, InLine m ∧ line = s ++ (m ++ (t ++ more)) ∧
      e.offset = c.offset + (s.length + m.length + t.length) := by
  obtain ⟨hok, m, hm, hmatch, hoffset⟩ := h.sound c e he
  have hall : InLine (s ++ (m ++ t)) := by
    intro x hx
    rw [List.mem_append, List.mem_append] at hx
    rcases hx with hx | hx | hx
    exacts [hs x hx, hm x hx, ht x hx]
  have hsplit : line ++ tail = (s ++ (m ++ t)) ++ e.rest := by
    rw [← hrest, hmatch]
    simp only [List.append_assoc]
  obtain ⟨more, hline, -⟩ := hall.prefix_of_append htail hsplit
  exact ⟨hok, m, more, hm, by rw [hline]; simp only [List.append_assoc], hoffset⟩

theorem Links.offset_of_end? (h : p.Links ok s t) (hs : InLine s) (ht : InLine t) (hne : s ≠ [])
    (htail : ∀ x ∈ tail.head?, x = '\n') (he : p.end? c = some e) (hrest : c.rest = line ++ tail) :
    c.offset < e.offset ∧ e.offset ≤ c.offset + line.length := by
  obtain ⟨-, m, more, -, hmatch, hoffset⟩ := h.of_end? hs ht htail he hrest
  have hlength := congrArg List.length hmatch
  have hpos := List.length_pos_of_ne_nil hne
  simp only [List.length_append] at hlength
  omega

theorem Links.isSome_end?_iff (h : p.Links ok s t) (hs : InLine s) (ht : InLine t)
    (htail : ∀ x ∈ tail.head?, x = '\n') (hline : InLine line) (hrest : c.rest = line ++ tail) :
    (p.end? c).isSome ↔ ok c.before ∧ ∃ back, line = s ++ back ∧ t <:+: back := by
  constructor
  · intro hsome
    obtain ⟨e, he⟩ := Option.isSome_iff_exists.mp hsome
    obtain ⟨hok, m, more, -, hmatch, -⟩ := h.of_end? hs ht htail he hrest
    exact ⟨hok, _, hmatch, m, more, by rw [List.append_assoc]⟩
  · rintro ⟨hok, back, rfl, m, more, rfl⟩
    have hm : InLine m := fun x hx => hline x (by simp [hx])
    have hsplit : c.rest = s ++ (m ++ (t ++ (more ++ tail))) := by
      rw [hrest]
      simp only [List.append_assoc]
    obtain ⟨e, he, -⟩ := h.longest c m (more ++ tail) hok hm hsplit
    rw [he]
    rfl

/-- **Behind a match nothing matches in its line.** Otherwise the match would have gone on. -/
theorem Links.end?_eq_none_behind (h : p.Links ok s t) (hs : InLine s) (ht : InLine t)
    (hne : s ≠ []) (htail : ∀ x ∈ tail.head?, x = '\n') {passed : List Char}
    (hpassed : InLine passed) (he : p.end? c = some e) (hc : c.rest = passed ++ (line ++ tail))
    (hd : d.rest = line ++ tail) (hlength : e.offset ≤ c.offset + passed.length) :
    p.end? d = none := by
  cases hd' : p.end? d with
  | none => rfl
  | some e' =>
    have hwhole : c.rest = (passed ++ line) ++ tail := by rw [hc, List.append_assoc]
    obtain ⟨hok, m, more, hm, hmatch, hoffset⟩ := h.of_end? hs ht htail he hwhole
    obtain ⟨-, m', more', hm', hmatch', -⟩ := h.of_end? hs ht htail hd' hd
    -- All of the second match lies behind the first text of the first one.
    have hstart : s.length ≤ passed.length := by omega
    have hpassed_eq : passed = s ++ passed.drop s.length := by
      have hprefix : s <+: passed ++ line := ⟨m ++ (t ++ more), hmatch.symm⟩
      exact (List.prefix_iff_eq_append.mp
        (List.prefix_of_prefix_length_le hprefix (List.prefix_append _ _) hstart)).symm
    have hrest : c.rest =
        s ++ ((passed.drop s.length ++ (s ++ m')) ++ (t ++ (more' ++ tail))) := by
      rw [hc, hmatch', hpassed_eq]
      simp
    have hall : InLine (passed.drop s.length ++ (s ++ m')) := by
      intro x hx
      rw [List.mem_append, List.mem_append] at hx
      rcases hx with hx | hx | hx
      exacts [hpassed x (List.mem_of_mem_drop hx), hs x hx, hm' x hx]
    obtain ⟨e'', he'', hle⟩ := h.longest c _ _ hok hall hrest
    obtain rfl := Option.some.inj (he.symm.trans he'')
    have hpos := List.length_pos_of_ne_nil hne
    rw [List.length_append, List.length_append, List.length_drop] at hle
    omega

theorem Links.search_behind (h : p.Links ok s t) (hs : InLine s) (ht : InLine t) (hne : s ≠ [])
    (htail : ∀ x ∈ tail.head?, x = '\n') {offset : Nat} {before : Option Char} {x : Char}
    (hline : InLine (x :: line)) (he : p.end? ⟨offset, before, x :: (line ++ tail)⟩ = some e) :
    search p.spanAt? (some e.offset) (offset + 1) (some x) (line ++ tail) =
      search p.spanAt? (some e.offset) (offset + 1 + line.length) (line.getLast?.or (some x))
        tail := by
  refine search_append fun u v huv hv => ?_
  by_cases hcovered : offset + 1 + u.length < e.offset
  · exact tryAt_of_lt hcovered
  · have hpassed : InLine (x :: u) := by
      intro y hy
      refine hline y ?_
      rw [huv]
      exact List.mem_append_left v hy
    have hsplit : x :: (line ++ tail) = (x :: u) ++ (v ++ tail) := by
      rw [huv, List.append_assoc, List.cons_append]
    have hlate : e.offset ≤ offset + (x :: u).length := by
      rw [List.length_cons]
      omega
    have hnone : p.end? (Cursor.after (offset + 1) (some x) u (v ++ tail)) = none :=
      h.end?_eq_none_behind hs ht hne htail hpassed he hsplit rfl hlate
    exact tryAt_of_eq_none (by rw [spanAt?, hnone]; rfl)

theorem linked_cons {x : Char} {before : Option Char} : Linked ok s t before (x :: line) ↔
    (ok before ∧ ∃ back, x :: line = s ++ back ∧ t <:+: back) ∨ Linked ok s t (some x) line := by
  constructor
  · rintro ⟨front, back, hline, hok, ht⟩
    cases front with
    | nil => exact .inl ⟨hok, back, hline, ht⟩
    | cons y front =>
      obtain ⟨rfl, rfl⟩ := List.cons.inj hline
      rw [getLast?_cons_or] at hok
      exact .inr ⟨front, back, rfl, hok, ht⟩
  · rintro (⟨hok, back, hline, ht⟩ | ⟨front, back, rfl, hok, ht⟩)
    · exact ⟨[], back, hline, hok, ht⟩
    · exact ⟨x :: front, back, rfl, by rwa [getLast?_cons_or], ht⟩

/-- **A search finds a line once**, if it has both texts. The induction goes to the first match in
the line. -/
theorem Links.length_search_line (h : p.Links ok s t) (hs : InLine s) (ht : InLine t)
    (hne : s ≠ []) (htail : ∀ x ∈ tail.head?, x = '\n') (hline : InLine line) :
    ∀ (last : Option Nat) (offset : Nat) (before : Option Char), (∀ l ∈ last, l ≤ offset) →
      ∃ last' : Option Nat, (∀ l ∈ last', l ≤ offset + line.length) ∧
        (search p.spanAt? last offset before (line ++ tail)).length =
          (if Linked ok s t before line then 1 else 0) +
            (search p.spanAt? last' (offset + line.length) (line.getLast?.or before)
              tail).length := by
  induction line with
  | nil =>
    intro last offset before hlast
    have hnot : ¬ Linked ok s t before [] := by
      rintro ⟨front, back, hempty, -⟩
      simp only [List.nil_eq, List.append_eq_nil_iff] at hempty
      exact hne hempty.2.1
    exact ⟨last, hlast, by rw [if_neg hnot, Nat.zero_add]; rfl⟩
  | cons x line ih =>
    intro last offset before hlast
    have hrest : InLine line := fun y hy => hline y (List.mem_cons_of_mem x hy)
    have hafter := Cursor.after_cons offset before x line tail
    rw [Cursor.after, Cursor.after, Cursor.mk.injEq] at hafter
    rw [List.cons_append, hafter.1, hafter.2.1, length_search_cons]
    let start : Cursor := ⟨offset, before, x :: (line ++ tail)⟩
    have hstart : start.rest = (x :: line) ++ tail := rfl
    have hlinked : Linked ok s t before (x :: line) ↔
        (p.end? start).isSome ∨ Linked ok s t (some x) line := by
      rw [h.isSome_end?_iff hs ht htail hline hstart, linked_cons]
    cases he : p.end? start with
    | none =>
      have htry : tryAt p.spanAt? last start = none := tryAt_of_eq_none (by rw [spanAt?, he]; rfl)
      obtain ⟨last', hlast', hlength⟩ := ih hrest last (offset + 1) (some x)
        fun l hl => (hlast l hl).trans (Nat.le_succ _)
      refine ⟨last', hlast', ?_⟩
      rw [htry, lastAfter, hlength]
      simp [hlinked, he]
    | some e =>
      obtain ⟨hlt, hle⟩ := h.offset_of_end? hs ht hne htail he hstart
      have htry : tryAt p.spanAt? last start = some (⟨start, e⟩, e) := by
        refine tryAt_eq_some_iff.mpr ⟨by rw [spanAt?, he]; rfl, fun l hl => ⟨hlast l hl, ?_⟩⟩
        exact fun hempty => absurd hempty hlt.ne'
      refine ⟨some e.offset, fun l hl => ?_, ?_⟩
      · obtain rfl := Option.some.inj hl
        rwa [List.length_cons, ← Nat.add_assoc, Nat.add_right_comm] at hle
      · rw [if_pos (hlinked.mpr (.inl (by rw [he]; rfl))), htry, lastAfter,
          h.search_behind hs ht hne htail hline he]
        rfl

/-! ## A text -/

theorem linked_iff_of_eq {before : Option Char} (hbefore : ok before = ok none) :
    Linked ok s t before line ↔ Linked ok s t none line := by
  refine exists_congr fun front => exists_congr fun back => and_congr_right fun _ => ?_
  cases front.getLast? <;> simp [hbefore]

theorem inLine_or_exists_break (text : List Char) :
    InLine text ∨ ∃ line rest, text = line ++ '\n' :: rest ∧ InLine line := by
  by_cases hmem : '\n' ∈ text
  · obtain ⟨line, rest, rfl, hline⟩ := List.eq_append_cons_of_mem hmem
    exact .inr ⟨line, rest, rfl, fun x hx heq => hline (heq ▸ hx)⟩
  · exact .inl fun x hx heq => hmem (heq ▸ hx)

theorem splitOn_of_inLine {text : List Char} (h : InLine text) : text.splitOn '\n' = [text] := by
  rw [List.splitOn_eq_splitOnP]
  exact List.splitOnP_eq_singleton fun x hx => by simpa using h x hx

theorem splitOn_append_break {rest : List Char} (h : InLine line) :
    (line ++ '\n' :: rest).splitOn '\n' = line :: rest.splitOn '\n' := by
  have hplain : ∀ x ∈ line, (x == '\n') = false := fun x hx => by simpa using h x hx
  rw [List.splitOn_eq_splitOnP, List.splitOn_eq_splitOnP]
  exact List.splitOnP_append_cons_of_forall_mem hplain '\n' (beq_self_eq_true '\n') rest

theorem Links.tryAt_eq_none (h : p.Links ok s t) (hs : InLine s) (hne : s ≠ [])
    (hc : ∀ x ∈ c.rest.head?, x = '\n') (last : Option Nat) : tryAt p.spanAt? last c = none := by
  refine tryAt_of_eq_none ?_
  cases he : p.end? c with
  | none => rw [spanAt?, he]; rfl
  | some e =>
    obtain ⟨-, m, -, hrest, -⟩ := h.sound c e he
    obtain ⟨x, xs, rfl⟩ := List.exists_cons_of_ne_nil hne
    exact absurd (hc x (by rw [hrest]; rfl)) (hs x List.mem_cons_self)

theorem Links.length_search (h : p.Links ok s t) (hs : InLine s) (ht : InLine t) (hne : s ≠ [])
    (hbreak : ok (some '\n') = ok none) {text : List Char} {last : Option Nat} {offset : Nat}
    {before : Option Char} (hlast : ∀ l ∈ last, l ≤ offset) (hbefore : ok before = ok none) :
    (search p.spanAt? last offset before text).length = linkedLines ok s t text := by
  -- The induction on the length of the text: a search goes on line by line.
  induction hn : text.length using Nat.strong_induction_on generalizing text last offset before with
  | _ n ih =>
    rcases inLine_or_exists_break text with hline | ⟨line, rest, rfl, hline⟩
    · have htail : ∀ x ∈ ([] : List Char).head?, x = '\n' := by simp
      obtain ⟨last', -, hlength⟩ :=
        h.length_search_line hs ht hne htail hline last offset before hlast
      rw [List.append_nil] at hlength
      rw [hlength, length_search_nil, h.tryAt_eq_none hs hne (by simp), linkedLines,
        splitOn_of_inLine hline]
      simp only [linked_iff_of_eq hbefore, List.countP_cons, List.countP_nil]
      simp
    · have htail : ∀ x ∈ ('\n' :: rest).head?, x = '\n' := by simp
      obtain ⟨last', hlast', hlength⟩ :=
        h.length_search_line hs ht hne htail hline last offset before hlast
      have hshort : rest.length < n := by
        rw [← hn, List.length_append, List.length_cons]
        omega
      have hrest := @ih rest.length hshort rest last' (offset + line.length + 1) (some '\n')
        (fun l hl => (hlast' l hl).trans (Nat.le_succ _)) hbreak rfl
      rw [hlength, length_search_cons, h.tryAt_eq_none hs hne (by simp), lastAfter, hrest,
        linkedLines, linkedLines, splitOn_append_break hline]
      simp only [linked_iff_of_eq hbefore, List.countP_cons]
      simp [Nat.add_comm]

/-- **The pattern is found once in each line that has both texts.** -/
theorem Links.count_eq_linkedLines (h : p.Links ok s t) (hs : InLine s) (ht : InLine t)
    (hne : s ≠ []) (hbreak : ok (some '\n') = ok none) (text : List Char) :
    p.count text = linkedLines ok s t text :=
  h.length_search hs ht hne hbreak (fun l hl => by cases hl) rfl

end

end Pattern

end Readiness
