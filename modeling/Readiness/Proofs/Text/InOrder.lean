import Mathlib
import Readiness.Text.Blank

/-!
# Pieces of a text in their order

Whatever is read off a text from left to right stands in it one after another. Reading can go
through several stages: pieces of pieces in their order are pieces of the whole in their order.

* `Text.InOrder` : pieces stand in a text one after another, without overlap.
* `Text.InOrder.flatMap` : pieces of pieces.
* `Text.inOrder_words` : the words of a text.
-/

namespace Readiness.Text

/-- Whether the pieces stand in the text one after another, without overlap. -/
inductive InOrder : (pieces : List (List Char)) → (text : List Char) → Prop where
  | nil (text : List Char) : InOrder [] text
  | cons (gap piece : List Char) {pieces : List (List Char)} {rest : List Char}
      (h : InOrder pieces rest) : InOrder (piece :: pieces) (gap ++ (piece ++ rest))

namespace InOrder
variable {pieces others : List (List Char)} {s t : List Char}

theorem after (h : InOrder pieces t) (lead : List Char) : InOrder pieces (lead ++ t) := by
  cases h with
  | nil => exact .nil _
  | cons gap piece h =>
    rw [← List.append_assoc]
    exact .cons (lead ++ gap) piece h

theorem append (h : InOrder pieces s) (h' : InOrder others t) :
    InOrder (pieces ++ others) (s ++ t) := by
  induction h with
  | nil s => exact h'.after s
  | cons gap piece _ ih =>
    rw [List.append_assoc, List.append_assoc]
    exact .cons gap piece ih

theorem singleton (piece : List Char) : InOrder [piece] piece := by
  have h := InOrder.cons [] piece (.nil [])
  rwa [List.append_nil, List.nil_append] at h

theorem of_infix {piece : List Char} (h : piece <:+: t) : InOrder [piece] t := by
  obtain ⟨gap, rest, rfl⟩ := h
  rw [List.append_assoc]
  exact .cons gap piece (.nil rest)

/-- **Pieces of pieces in their order are pieces of the whole in their order.** -/
theorem flatMap {f : List Char → List (List Char)} (hf : ∀ piece, InOrder (f piece) piece)
    (h : InOrder pieces t) : InOrder (pieces.flatMap f) t := by
  induction h with
  | nil t => exact .nil t
  | cons gap piece _ ih => exact ((hf piece).append ih).after gap

theorem filterMap {f : List Char → Option (List Char)}
    (hf : ∀ piece, ∀ part ∈ f piece, part <:+: piece) (h : InOrder pieces t) :
    InOrder (pieces.filterMap f) t := by
  rw [List.filterMap_eq_flatMap_toList]
  refine flatMap (fun piece => ?_) h
  cases hpart : f piece with
  | none => exact .nil piece
  | some part => exact of_infix (hf piece part hpart)

theorem sublist (h : InOrder pieces t) (hsub : others.Sublist pieces) : InOrder others t := by
  induction h generalizing others with
  | nil t =>
    rw [List.sublist_nil.mp hsub]
    exact .nil t
  | cons gap piece _ ih =>
    cases hsub with
    | cons _ hsub => exact ((ih hsub).after piece).after gap
    | cons_cons _ hsub => exact .cons gap piece (ih hsub)

end InOrder

theorem inOrder_splitBlanks (word s : List Char) :
    InOrder (splitBlanks word s) (word.reverse ++ s) := by
  induction s generalizing word with
  | nil =>
    cases word with
    | nil => exact .nil _
    | cons c word =>
      rw [List.append_nil]
      exact .singleton (c :: word).reverse
  | cons c s ih =>
    rw [splitBlanks.eq_def]
    simp only
    split_ifs with hblank hempty
    · exact ((ih []).after [c]).after word.reverse
    · exact .cons [] word.reverse ((ih []).after [c])
    · have hrest := ih (c :: word)
      rwa [List.reverse_cons, List.append_assoc, List.singleton_append] at hrest

/-- **The words of a text stand in it in their order.** -/
theorem inOrder_words (s : List Char) : InOrder (words s) s := inOrder_splitBlanks [] s

end Readiness.Text
