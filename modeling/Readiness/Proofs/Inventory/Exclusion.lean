import Readiness.Failure
import Readiness.Proofs.Glob.Shape
import Readiness.Proofs.Inventory.Collect

/-!
# What exclusions take away

Exclusions take the covered files out of the list of files and leave the others in their order.
Exclusions of the usual shapes take just the files that the shapes are for.

* `Inventory.filter_mergeSort` : sorting and filtering in either order.
* `Inventory.collect_append` : more exclusions.
* `Inventory.collect_of_shapes` : exclusions of the usual shapes.
-/

namespace Readiness.Inventory

/-! ## Sorting and filtering -/

section
variable {α : Type} {le : α → α → Bool}

theorem exists_mergeSort_cons (htrans : ∀ a b c, le a b = true → le b c = true → le a c = true)
    (htotal : ∀ a b, (le a b || le b a) = true) (x : α) (xs : List α) :
    ∃ lower upper, (x :: xs).mergeSort le = lower ++ x :: upper ∧
      xs.mergeSort le = lower ++ upper ∧ (∀ y ∈ lower, ¬ le x y = true) ∧
        ∀ y ∈ upper, le x y = true := by
  obtain ⟨lower, upper, hsort, hrest, hlower⟩ := List.mergeSort_cons htrans htotal x xs
  refine ⟨lower, upper, hsort, hrest, fun y hy => by simpa using hlower y hy, ?_⟩
  have hpairs := List.pairwise_mergeSort htrans htotal (x :: xs)
  rw [hsort] at hpairs
  exact (List.pairwise_cons.mp (List.pairwise_append.mp hpairs).2.1).1

theorem split_unique {p : α → Bool} {front back front' back' : List α}
    (h : front ++ back = front' ++ back') (hfront : ∀ y ∈ front, ¬ p y = true)
    (hback : ∀ y ∈ back, p y = true) (hfront' : ∀ y ∈ front', ¬ p y = true)
    (hback' : ∀ y ∈ back', p y = true) : front = front' ∧ back = back' := by
  have hbacks : back = back' := by
    have hfilter := congrArg (List.filter p) h
    rwa [List.filter_append, List.filter_append, List.filter_eq_nil_iff.mpr hfront,
      List.filter_eq_nil_iff.mpr hfront', List.filter_eq_self.mpr hback,
      List.filter_eq_self.mpr hback'] at hfilter
  subst hbacks
  exact ⟨List.append_cancel_right h, rfl⟩

/-- **A sorted list keeps its order when members are left out**, also among equal ones. -/
theorem filter_mergeSort (htrans : ∀ a b c, le a b = true → le b c = true → le a c = true)
    (htotal : ∀ a b, (le a b || le b a) = true) (p : α → Bool) (xs : List α) :
    (xs.filter p).mergeSort le = (xs.mergeSort le).filter p := by
  induction xs with
  | nil => simp
  | cons x xs ih =>
    obtain ⟨lower, upper, hsort, hrest, hlower, hupper⟩ :=
      exists_mergeSort_cons htrans htotal x xs
    rw [hrest, List.filter_append] at ih
    by_cases hx : p x = true
    · obtain ⟨lower', upper', hsort', hrest', hlower', hupper'⟩ :=
        exists_mergeSort_cons htrans htotal x (xs.filter p)
      rw [hrest'] at ih
      obtain ⟨hfront, hback⟩ := split_unique ih hlower' hupper'
        (fun y hy => hlower y (List.mem_of_mem_filter hy))
        (fun y hy => hupper y (List.mem_of_mem_filter hy))
      rw [List.filter_cons_of_pos hx, hsort', hsort, List.filter_append,
        List.filter_cons_of_pos hx, hfront, hback]
    · rw [List.filter_cons_of_neg hx, ih, hsort, List.filter_append, List.filter_cons_of_neg hx]

end

/-! ## Exclusions -/

theorem isExcluded_append (globs others : List Glob) (path : String) :
    isExcluded (globs ++ others) path = (isExcluded globs path || isExcluded others path) :=
  List.any_append

/-- **More exclusions** take the files that they cover and leave the others in their order. -/
theorem collect_append (folder : Node) (globs others : List Glob) :
    collect folder (globs ++ others) =
      (collect folder others).filter fun f => !isExcluded globs f.path := by
  unfold collect
  rw [← filter_mergeSort, List.filter_filter]
  · simp only [isExcluded_append, Bool.not_or]
  · intro f g k hfg hgk
    exact decide_eq_true (String.le_trans (of_decide_eq_true hfg) (of_decide_eq_true hgk))
  · intro f g
    simpa only [Bool.or_eq_true, decide_eq_true_eq] using String.le_total f.path g.path

/-! ## The usual shapes -/

/-- The globs of shapes. -/
def shapeGlobs (shapes : List GlobShape) : List Glob :=
  shapes.map fun shape => ⟨shape.source, shape.tokens⟩

theorem readGlobs_shapes (shapes : List GlobShape) :
    readGlobs (shapes.map (·.source)) = .ok (shapeGlobs shapes) := by
  induction shapes with
  | nil => rfl
  | cons shape shapes ih =>
    rw [List.map_cons, readGlobs, shape.parse_source]
    simp only [ih]
    rfl

theorem isExcluded_shapeGlobs (shapes : List GlobShape) (path : String) :
    isExcluded (shapeGlobs shapes) path = true ↔ ∃ shape ∈ shapes, shape.Has path := by
  simp [isExcluded, shapeGlobs, GlobShape.covers_iff]

/-- **Exclusions of the usual shapes.** They are all read, and they take just the files that one of
the shapes is for: those below a folder, those of a name, or those with an ending. All other files
stay in their order, also where there are more exclusions of any kind. -/
theorem collect_of_shapes (folder : Node) (shapes : List GlobShape) :
    ∃ globs, readGlobs (shapes.map (·.source)) = .ok globs ∧
      ∀ others, collect folder (globs ++ others) =
        (collect folder others).filter fun f => ¬ ∃ shape ∈ shapes, shape.Has f.path := by
  refine ⟨shapeGlobs shapes, readGlobs_shapes shapes, fun others => ?_⟩
  rw [collect_append]
  refine List.filter_congr fun f _ => ?_
  rw [Bool.eq_iff_iff, Bool.not_eq_true', ← Bool.not_eq_true, isExcluded_shapeGlobs,
    decide_eq_true_iff]

end Readiness.Inventory
