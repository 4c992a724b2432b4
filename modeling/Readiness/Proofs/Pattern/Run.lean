import Readiness.Proofs.Pattern.Overlap
import Readiness.Proofs.Pattern.Sequence

/-!
# Longest runs

The preferred end of a repetition of one character is behind the longest run of such characters.
Behind each other end stands one more of them, so that a pattern that begins with something else can
go on only behind the longest run.

* `Cursor.afterRun` : the cursor behind the longest run.
* `Cursor.filterMap_runEnds`, `Cursor.findSome?_runEnds` : going on behind a run.
* `Cursor.head?_runEnds_one` : the preferred end of a run of one character or more.
-/

namespace Readiness.Cursor

variable {set : CharSet} {β : Type} {f : Cursor → Option β}

/-- The cursor behind the longest run of characters of the set. -/
def afterRun (set : CharSet) (c : Cursor) : Cursor :=
  after c.offset c.before (c.rest.takeWhile set.has) (c.rest.dropWhile set.has)

theorem afterRun_cons_of_has {x : Char} (hx : set.has x) (offset : Nat) (before : Option Char)
    (xs : List Char) :
    afterRun set ⟨offset, before, x :: xs⟩ = afterRun set ⟨offset + 1, some x, xs⟩ := by
  rw [afterRun, List.takeWhile_cons_of_pos hx, List.dropWhile_cons_of_pos hx, after_cons]
  rfl

theorem afterRun_cons_of_not_has {x : Char} (hx : ¬ set.has x) (offset : Nat)
    (before : Option Char) (xs : List Char) :
    afterRun set ⟨offset, before, x :: xs⟩ = ⟨offset, before, x :: xs⟩ := by
  rw [afterRun, List.takeWhile_cons_of_neg hx, List.dropWhile_cons_of_neg hx, after_nil]

theorem exists_reverse_run (set : CharSet) (rest : List Char) (offset : Nat)
    (before : Option Char) : ∃ others, (run set none offset before rest).reverse =
        afterRun set ⟨offset, before, rest⟩ :: others ∧
      ∀ d ∈ others, ∃ x ∈ d.rest.head?, set.has x := by
  induction rest generalizing offset before with
  | nil => exact ⟨[], rfl, fun d hd => absurd hd List.not_mem_nil⟩
  | cons x xs ih =>
    by_cases hx : set.has x
    · obtain ⟨others, hrun, hothers⟩ := ih (offset + 1) (some x)
      refine ⟨others ++ [⟨offset, before, x :: xs⟩], ?_, fun d hd => ?_⟩
      · rw [run, if_pos (by simpa using hx), List.reverse_cons, Option.map_none, hrun,
          afterRun_cons_of_has hx, List.cons_append]
      · rcases List.mem_append.mp hd with hd | hd
        · exact hothers d hd
        · rw [List.mem_singleton.mp hd]
          exact ⟨x, rfl, hx⟩
    · refine ⟨[], ?_, fun d hd => absurd hd List.not_mem_nil⟩
      rw [run, if_neg (by simpa using hx), afterRun_cons_of_not_has hx]
      rfl

theorem descending_runEnds (set : CharSet) (c : Cursor) :
    Descending (c.runEnds set 0 none true) := by
  rw [runEnds, if_pos rfl, List.drop_zero]
  exact List.pairwise_reverse.mpr (pairwise_run _ _ _ _)

/-- **Behind a run one goes on at its end**, if nothing goes on before a character of the set. -/
theorem filterMap_runEnds (h : ∀ d, ∀ x ∈ d.rest.head?, set.has x → f d = none) (c : Cursor) :
    (c.runEnds set 0 none true).filterMap f = (f (c.afterRun set)).toList := by
  obtain ⟨others, hrun, hothers⟩ := exists_reverse_run set c.rest c.offset c.before
  have hnone : others.filterMap f = [] := by
    rw [List.filterMap_eq_nil_iff]
    intro d hd
    obtain ⟨x, hx, hset⟩ := hothers d hd
    exact h d x hx hset
  rw [runEnds, if_pos rfl, List.drop_zero, hrun, List.filterMap_cons, hnone]
  cases f (c.afterRun set) <;> rfl

theorem findSome?_runEnds (h : ∀ d, ∀ x ∈ d.rest.head?, set.has x → f d = none) (c : Cursor) :
    (c.runEnds set 0 none true).findSome? f = f (c.afterRun set) := by
  rw [← List.head?_filterMap, filterMap_runEnds h]
  cases f (c.afterRun set) <;> rfl

theorem head?_runEnds_one (set : CharSet) (c : Cursor) : (c.runEnds set 1 none true).head? =
    if c.rest.takeWhile set.has = [] then none else some (c.afterRun set) := by
  obtain ⟨offset, before, rest⟩ := c
  rw [runEnds, if_pos rfl]
  cases rest with
  | nil => rfl
  | cons x xs =>
    simp only
    rw [run, List.drop_succ_cons, List.drop_zero]
    by_cases hx : set.has x
    · obtain ⟨others, hrun, -⟩ := exists_reverse_run set xs (offset + 1) (some x)
      rw [if_pos (by simpa using hx), Option.map_none, hrun, List.head?_cons,
        List.takeWhile_cons_of_pos hx, if_neg (List.cons_ne_nil _ _), afterRun_cons_of_has hx]
    · rw [if_neg (by simpa using hx), List.takeWhile_cons_of_neg hx, if_pos rfl]
      rfl

theorem textTo_afterRun (set : CharSet) (c : Cursor) :
    c.textTo (c.afterRun set) = c.rest.takeWhile set.has := by
  have hoffset : (c.afterRun set).offset - c.offset = (c.rest.takeWhile set.has).length :=
    Nat.add_sub_cancel_left _ _
  rw [textTo, hoffset]
  exact List.prefix_iff_eq_take.mp (List.takeWhile_prefix _) |>.symm

end Readiness.Cursor
