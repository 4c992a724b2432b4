import Readiness.Proofs.Text.Scan
import Readiness.Unicode.Class

/-!
# Occurrences of texts

How often a text stands in another one, counted from left to right without overlap, and how many
places or lines of a text satisfy a condition. Conditions look at the characters on both sides of a
place; `none` stands for an end of the text.

* `Text.occurrences` : how often a text occurs under a condition.
* `Text.occurrencesBehind`, `Text.occurrences_eq_occurrencesBehind` : how many of the occurrences
  satisfy a condition, and where this makes no difference.
* `Text.places`, `Text.places_eq_placesFrom` : how many places satisfy a condition.
* `Text.Linked`, `Text.linkedLines` : lines with two texts one behind the other.
-/

namespace Readiness

theorem getLast?_cons_or (x : Char) (s : List Char) (before : Option Char) :
    (x :: s).getLast?.or before = s.getLast?.or (some x) := by
  rw [List.getLast?_cons]
  cases s.getLast? <;> rfl

namespace Text

open Unicode

/-- Whether a word begins or ends between the two characters. -/
def isWordEdge (before after : Option Char) : Bool := before.any isWord != after.any isWord

/-! ## Occurrences -/

/-- Reads the text `s`, which is not empty, where it stands and the characters before and behind it
satisfy the condition. The result is the character before it. -/
def occurrence (s : List Char) (ok : (before after : Option Char) → Bool) :
    Reader (Option Char) where
  read? before rest :=
    if s ≠ [] ∧ s <+: rest ∧ ok before (rest.drop s.length).head? then
      some (before, rest.drop s.length)
    else none
  consumes := by
    intro before rest a after h
    split_ifs at h with hs
    cases h
    exact ⟨s, hs.1, (List.prefix_iff_eq_append.mp hs.2.1).symm⟩

/-- How often `s` stands in the text under the condition, counted from left to right without
overlap. Where the condition fails, counting goes on with the next character. -/
def occurrences (s : List Char) (ok : (before after : Option Char) → Bool)
    (text : List Char) : Nat :=
  ((occurrence s ok).scanAll text).length

/-- How many of the occurrences of `s` in the text, taken from left to right without overlap, stand
behind a character that satisfies the condition. Those that do not still cover what they take. -/
def occurrencesBehind (ok : (before : Option Char) → Bool) (s text : List Char) : Nat :=
  ((occurrence s fun _ _ => true).scanAll text).countP ok

section
variable {s : List Char} {ok : (before : Option Char) → Bool}

theorem length_scan_occurrence (h : ∀ x ∈ s, ok (some x) = false) (text : List Char) :
    ∀ (skip covered : Nat) (before : Option Char),
      skip = covered ∨ skip = 0 ∧ (covered ≠ 0 → ok before = false) ∧
        (∀ x ∈ text.take (covered - 1), ok (some x) = false) →
      ((occurrence s fun before _ => ok before).scan skip before text).length =
        ((occurrence s fun _ _ => true).scan covered before text).countP ok := by
  -- The induction over the text. Where the condition fails, the left scan is free while the right
  -- one passes over `covered` characters of `s`, behind none of which the condition holds.
  induction text with
  | nil =>
    intro skip covered before _
    rw [Reader.scan, Reader.scan]
    rfl
  | cons x xs ih =>
    intro skip covered before hskip
    cases covered with
    | succ covered =>
      rcases hskip with rfl | ⟨rfl, hbefore, hinside⟩
      · rw [Reader.scan, Reader.scan]
        exact ih _ _ _ (.inl rfl)
      · have hnone : (occurrence s fun before _ => ok before).read? before (x :: xs) = none :=
          if_neg fun hall => by simp [hbefore] at hall
        rw [Reader.scan_of_none hnone, Reader.scan]
        refine ih _ _ _ (.inr ⟨rfl, fun hpos => ?_, fun y hy => ?_⟩)
        · obtain ⟨n, rfl⟩ := Nat.exists_eq_succ_of_ne_zero hpos
          exact hinside x (by simp)
        · cases covered with
          | zero => simp at hy
          | succ n => exact hinside y (by simpa using .inr hy)
    | zero =>
      obtain rfl : skip = 0 := by
        rcases hskip with h | h
        exacts [h, h.1]
      by_cases hs : s ≠ [] ∧ s <+: x :: xs
      · have hright : (occurrence s fun _ _ => true).read? before (x :: xs) =
            some (before, (x :: xs).drop s.length) := if_pos ⟨hs.1, hs.2, rfl⟩
        rw [Reader.scan_of_some hright, List.countP_cons]
        by_cases hok : ok before
        · have hleft : (occurrence s fun before _ => ok before).read? before (x :: xs) =
              some (before, (x :: xs).drop s.length) := if_pos ⟨hs.1, hs.2, hok⟩
          rw [Reader.scan_of_some hleft, List.length_cons, if_pos hok, ih _ _ _ (.inl rfl)]
        · have hleft : (occurrence s fun before _ => ok before).read? before (x :: xs) = none :=
            if_neg fun hall => hok hall.2.2
          rw [Reader.scan_of_none hleft, if_neg hok, Nat.add_zero]
          obtain ⟨y, ys, rfl⟩ := List.exists_cons_of_ne_nil hs.1
          obtain ⟨rfl, after, rfl⟩ := List.cons_prefix_cons.mp hs.2
          refine ih _ _ _ (.inr ⟨rfl, fun _ => h y List.mem_cons_self, fun z hz => ?_⟩)
          refine h z (List.mem_cons_of_mem y ?_)
          rw [List.length_cons, List.drop_succ_cons, List.drop_left, List.length_append,
            Nat.add_sub_cancel] at hz
          have hinside := (List.take_prefix_take_left (Nat.sub_le ys.length 1)).subset hz
          rwa [List.take_left] at hinside
      · have hnone : ∀ ok' : Option Char → Option Char → Bool,
            (occurrence s ok').read? before (x :: xs) = none :=
          fun ok' => if_neg fun hall => hs ⟨hall.1, hall.2.1⟩
        rw [Reader.scan_of_none (hnone _), Reader.scan_of_none (hnone _)]
        exact ih _ _ _ (.inl rfl)

/-- **Where an occurrence that fails covers nothing but what fails**, it does not matter whether the
condition selects before or after the occurrences are taken. -/
theorem occurrences_eq_occurrencesBehind (h : ∀ x ∈ s, ok (some x) = false) (text : List Char) :
    occurrences s (fun before _ => ok before) text = occurrencesBehind ok s text :=
  length_scan_occurrence h text 0 0 none (.inl rfl)

end

/-! ## Places -/

/-- How many places of the text, both ends among them, satisfy the condition. -/
def places (ok : (before after : Option Char) → Bool) (text : List Char) : Nat :=
  (List.range (text.length + 1)).countP fun i => ok (text.take i).getLast? (text.drop i).head?

section
variable (ok : (before after : Option Char) → Bool)

/-- How many places of the text satisfy the condition, where `before` stands in front of the
text. -/
def placesFrom : (before : Option Char) → List Char → Nat
  | before, [] => (ok before none).toNat
  | before, x :: xs => (ok before (some x)).toNat + placesFrom (some x) xs

theorem countP_range_eq_placesFrom (before : Option Char) (text : List Char) :
    ((List.range (text.length + 1)).countP fun i =>
      ok ((text.take i).getLast?.or before) (text.drop i).head?) = placesFrom ok before text := by
  induction text generalizing before with
  | nil => cases h : ok before none <;> simp [placesFrom, h]
  | cons x xs ih =>
    have hlater : ∀ i, ((x :: xs).take (i + 1)).getLast?.or before =
        (xs.take i).getLast?.or (some x) := by
      intro i
      rw [List.take_succ_cons, getLast?_cons_or]
    rw [placesFrom, ← ih, List.length_cons, List.range_succ_eq_map (n := xs.length + 1),
      List.countP_cons, List.countP_map, Nat.add_comm]
    congr 1
    · cases h : ok before (some x) <;> simp [h]
    · exact congrArg (fun f => List.countP f _) (funext fun i => by rw [Function.comp, hlater]; rfl)

theorem places_eq_placesFrom (text : List Char) : places ok text = placesFrom ok none text := by
  rw [← countP_range_eq_placesFrom, places]
  simp only [Option.or_none]

theorem placesFrom_append (before : Option Char) (a b : List Char) :
    placesFrom ok before (a ++ b) + (ok (a.getLast?.or before) none).toNat =
      placesFrom ok before a + placesFrom ok (a.getLast?.or before) b := by
  induction a generalizing before with
  | nil => exact Nat.add_comm _ _
  | cons x a ih =>
    rw [List.cons_append, placesFrom, placesFrom, getLast?_cons_or, Nat.add_assoc, Nat.add_assoc,
      ih]

theorem placesFrom_add (before before' : Option Char) (text : List Char) :
    placesFrom ok before text + (ok before' text.head?).toNat =
      placesFrom ok before' text + (ok before text.head?).toNat := by
  cases text with
  | nil => exact Nat.add_comm _ _
  | cons x xs =>
    rw [placesFrom, placesFrom, List.head?_cons]
    omega

end

/-! ## Lines -/

/-- Whether `s` stands in the line behind a character that satisfies the condition, and `t` stands
somewhere behind `s`; `before` is the character before the line. -/
def Linked (ok : (before : Option Char) → Bool) (s t : List Char) (before : Option Char)
    (line : List Char) : Prop :=
  ∃ front back, line = front ++ (s ++ back) ∧ ok (front.getLast?.or before) ∧ t <:+: back

variable {ok : (before : Option Char) → Bool} {s t : List Char} {before : Option Char}
  {line : List Char}

theorem linked_iff : Linked ok s t before line ↔ ∃ i < line.length + 1,
    s <+: line.drop i ∧ ok ((line.take i).getLast?.or before) ∧
      t <:+: line.drop (i + s.length) := by
  constructor
  · rintro ⟨front, back, rfl, hok, ht⟩
    refine ⟨front.length, by rw [List.length_append]; omega, ?_, ?_, ?_⟩
    · rw [List.drop_left]
      exact List.prefix_append s back
    · rwa [List.take_left]
    · rwa [← List.drop_drop, List.drop_left, List.drop_left]
  · rintro ⟨i, -, hs, hok, ht⟩
    refine ⟨line.take i, line.drop (i + s.length), ?_, hok, ht⟩
    rw [← List.drop_drop, List.prefix_iff_eq_append.mp hs, List.take_append_drop]

instance : Decidable (Linked ok s t before line) := decidable_of_iff _ linked_iff.symm

/-- How many lines of the text have `s` behind a character that satisfies the condition, and `t`
behind it. Only line feeds separate lines. -/
def linkedLines (ok : (before : Option Char) → Bool) (s t text : List Char) : Nat :=
  (text.splitOn '\n').countP fun line => Linked ok s t none line

end Text

end Readiness
