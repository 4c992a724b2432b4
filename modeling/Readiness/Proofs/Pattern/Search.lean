import Mathlib
import Readiness.Pattern.Match

/-!
# How many hits a search finds

Two searches of one text, of which one has every hit of the other: the hits that they take may stand
at different places, as each passes over what its own last hit covers. The search with more hits
still takes at least as many, provided that its later hits do not end before its earlier ones.

* `Cursor.Leads` : a cursor and a later one in the same text.
* `Covers` : one attempt has all hits of another, and its ends are in order.
* `Covers.length_searchAll_le` : how many hits the two searches take.
* `Pattern.count_le` : how many matches two patterns have.
-/

namespace Readiness

/-- Whether the second cursor stands in the text after the first, or at the same place. -/
def Cursor.Leads (c d : Cursor) : Prop :=
  ∃ between, c.rest = between ++ d.rest ∧ d.offset = c.offset + between.length

namespace Cursor.Leads
variable {c d e : Cursor}

theorem refl (c : Cursor) : c.Leads c := ⟨[], rfl, rfl⟩

theorem trans (h : c.Leads d) (h' : d.Leads e) : c.Leads e := by
  obtain ⟨m, hm, hd⟩ := h
  obtain ⟨k, hk, he⟩ := h'
  refine ⟨m ++ k, by rw [hm, hk, List.append_assoc], ?_⟩
  rw [he, hd, List.length_append, Nat.add_assoc]

theorem step (offset : Nat) (before : Option Char) (x : Char) (xs : List Char) :
    Leads ⟨offset, before, x :: xs⟩ ⟨offset + 1, some x, xs⟩ := ⟨[x], rfl, rfl⟩

theorem offset_le (h : c.Leads d) : c.offset ≤ d.offset := by
  obtain ⟨m, -, hd⟩ := h
  omega

end Cursor.Leads

variable {α β : Type}

/-- Whether every hit of `g` is one of `f` with the same end, and hits of `f` that begin later do
not end earlier. -/
structure Covers (f : Cursor → Option (α × Cursor)) (g : Cursor → Option (β × Cursor)) : Prop where
  hit : ∀ c b, g c = some b → ∃ a, f c = some a ∧ a.2.offset = b.2.offset
  ordered : ∀ c d a a', c.Leads d → f c = some a → f d = some a' → a.2.offset ≤ a'.2.offset

/-! ## One attempt -/

section
variable {f : Cursor → Option (α × Cursor)} {last : Option Nat} {c : Cursor} {a : α × Cursor}

theorem tryAt_eq_some_iff : tryAt f last c = some a ↔ f c = some a ∧
    ∀ l ∈ last, l ≤ c.offset ∧ (a.2.offset = c.offset → l ≠ c.offset) := by
  unfold tryAt
  cases last with
  | none => cases f c <;> simp
  | some l =>
    by_cases hl : c.offset < l
    · simp [hl]
    · cases h : f c with
      | none => simp [hl]
      | some b =>
        have hle : l ≤ c.offset := Nat.not_lt.mp hl
        by_cases hb : b = a
        · subst hb
          by_cases hempty : b.2.offset = c.offset <;> by_cases hlast : l = c.offset <;>
            simp_all
        · simp only [Option.any_some, hl, decide_false, Bool.false_eq_true, if_false,
            Option.some.injEq, hb, false_and, iff_false]
          split_ifs
          · simp
          · simpa using hb

/-- Where the last hit ends after an attempt. -/
def lastAfter (last : Option Nat) (taken : Option (α × Cursor)) : Option Nat :=
  match taken with
  | none => last
  | some hit => some hit.2.offset

theorem length_search_nil (f : Cursor → Option (α × Cursor)) (last : Option Nat) (offset : Nat)
    (before : Option Char) : (search f last offset before []).length =
      (tryAt f last ⟨offset, before, []⟩).toList.length := by
  rw [search]
  cases tryAt f last ⟨offset, before, []⟩ <;> rfl

theorem length_search_cons (f : Cursor → Option (α × Cursor)) (last : Option Nat) (offset : Nat)
    (before : Option Char) (x : Char) (xs : List Char) :
    (search f last offset before (x :: xs)).length =
      (tryAt f last ⟨offset, before, x :: xs⟩).toList.length +
        (search f (lastAfter last (tryAt f last ⟨offset, before, x :: xs⟩))
          (offset + 1) (some x) xs).length := by
  rw [search]
  cases tryAt f last ⟨offset, before, x :: xs⟩ with
  | none => simp [lastAfter]
  | some hit => simp [lastAfter, Nat.add_comm]

end

/-! ## Two searches -/

/-- How two searches stand to each other at a cursor, given the ends of their last hits. With the
same number of hits, the last hit of the search with `f` ends no later than that of the other. One
hit ahead, it may end later, but not after the end of any hit of `f` to come. -/
inductive Slack (f : Cursor → Option (α × Cursor)) (c : Cursor) :
    (last last' : Option Nat) → (ahead : Nat) → Prop where
  | level {last last' : Option Nat} (le : ∀ l ∈ last, ∃ k ∈ last', l ≤ k) : Slack f c last last' 0
  | ahead {last last' : Option Nat}
      (le : ∀ l ∈ last, ∀ d a, c.Leads d → f d = some a → l ≤ a.2.offset) : Slack f c last last' 1

theorem Slack.leads {f : Cursor → Option (α × Cursor)} {c d : Cursor} {last last' : Option Nat}
    {s : Nat} (hs : Slack f c last last' s) (hd : c.Leads d) : Slack f d last last' s := by
  cases hs with
  | level hle => exact .level hle
  | ahead hle => exact .ahead fun l hl e a he => hle l hl e a (hd.trans he)

namespace Covers
variable {f : Cursor → Option (α × Cursor)} {g : Cursor → Option (β × Cursor)} {c : Cursor}
  {last last' : Option Nat} {s : Nat}

theorem slack_tryAt (h : Covers f g) (hs : Slack f c last last' s) :
    ∃ s', Slack f c (lastAfter last (tryAt f last c)) (lastAfter last' (tryAt g last' c)) s' ∧
      s' + (tryAt g last' c).toList.length ≤ s + (tryAt f last c).toList.length := by
  have hahead : ∀ (a : α × Cursor) (other : Option Nat), tryAt f last c = some a →
      Slack f c (some a.2.offset) other 1 := by
    intro a other hf
    refine .ahead fun l hl d b hd hb => ?_
    cases hl
    exact h.ordered c d a b hd (tryAt_eq_some_iff.mp hf).1 hb
  cases hg : tryAt g last' c with
  | none =>
    cases hf : tryAt f last c with
    | none => exact ⟨s, hs, Nat.le_refl _⟩
    | some a =>
      refine ⟨1, hahead a _ hf, ?_⟩
      simp
  | some b =>
    obtain ⟨hgc, hfree⟩ := tryAt_eq_some_iff.mp hg
    obtain ⟨a, hfc, hend⟩ := h.hit c b hgc
    cases hf : tryAt f last c with
    | some a' =>
      obtain rfl := Option.some.inj (hfc.symm.trans (tryAt_eq_some_iff.mp hf).1)
      refine ⟨0, .level fun l hl => ⟨b.2.offset, rfl, ?_⟩, by simp⟩
      cases hl
      exact hend.le
    | none =>
      cases hs with
      | level hle =>
        -- The last hit of `f` leaves at least as much room as that of `g`.
        have hnone : tryAt f last c ≠ some a := by rw [hf]; exact (Option.some_ne_none a).symm
        refine absurd (tryAt_eq_some_iff.mpr ⟨hfc, fun l hl => ?_⟩) hnone
        obtain ⟨k, hk, hlk⟩ := hle l hl
        obtain ⟨hkc, hkne⟩ := hfree k hk
        refine ⟨hlk.trans hkc, fun hempty hlc => hkne (hend ▸ hempty) ?_⟩
        omega
      | ahead hle =>
        refine ⟨0, .level fun l hl => ⟨b.2.offset, rfl, ?_⟩, by simp⟩
        exact hend ▸ hle l hl c a (.refl c) hfc

theorem length_search_le (h : Covers f g) (rest : List Char) :
    ∀ (offset : Nat) (before : Option Char) (last last' : Option Nat) (s : Nat),
      Slack f ⟨offset, before, rest⟩ last last' s →
      (search g last' offset before rest).length ≤
        (search f last offset before rest).length + s := by
  -- The induction over the rest of the text.
  induction rest with
  | nil =>
    intro offset before last last' s hs
    obtain ⟨s', -, hle⟩ := h.slack_tryAt hs
    rw [length_search_nil, length_search_nil]
    omega
  | cons x xs ih =>
    intro offset before last last' s hs
    obtain ⟨s', hs', hle⟩ := h.slack_tryAt hs
    have hrest := ih _ _ _ _ _ (hs'.leads (.step offset before x xs))
    rw [length_search_cons, length_search_cons]
    omega

/-- **A search with more hits takes at least as many.** -/
theorem length_searchAll_le (h : Covers f g) (text : List Char) :
    (searchAll g text).length ≤ (searchAll f text).length :=
  h.length_search_le text 0 none none none 0 (.level (by simp))

end Covers

namespace Pattern
variable {p q : Pattern}

/-- Whether matches that begin later do not end earlier. -/
def Ordered (p : Pattern) : Prop :=
  ∀ c d e e', c.Leads d → p.end? c = some e → p.end? d = some e' → e.offset ≤ e'.offset

/-- **A pattern with more matches is found at least as often**, if its matches are ordered. -/
theorem count_le (hp : p.Ordered)
    (h : ∀ c e, q.end? c = some e → ∃ e', p.end? c = some e' ∧ e'.offset = e.offset)
    (text : List Char) : q.count text ≤ p.count text := by
  refine Covers.length_searchAll_le ⟨?_, ?_⟩ text
  · intro c b hb
    obtain ⟨e, he, rfl⟩ := Option.map_eq_some_iff.mp hb
    obtain ⟨e', he', hoffset⟩ := h c e he
    exact ⟨(⟨c, e'⟩, e'), by simp [he'], hoffset⟩
  · intro c d a a' hcd ha ha'
    obtain ⟨e, he, rfl⟩ := Option.map_eq_some_iff.mp ha
    obtain ⟨e', he', rfl⟩ := Option.map_eq_some_iff.mp ha'
    exact hp c d e e' hcd he he'

end Pattern

end Readiness
