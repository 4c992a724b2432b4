import Readiness.Proofs.Text.Occurrences
import Readiness.Text.Lines

/-!
# Lines and breaks

A line ends behind a break, where a carriage return before a line feed is only the beginning of one,
or at the end of the text. So a text has as many lines as breaks, and one more if characters follow
the last break. Two texts one behind the other have the lines of both, less one if the last line of
the first text runs over into the second.

* `Text.breaks` : how many breaks a text has.
* `lineCount_eq` : lines told from breaks.
* `lineCount_laws` : the lines of a text, and of two texts one behind the other.
-/

namespace Readiness

namespace Text

/-- Whether a break ends between the two characters. A carriage return before a line feed ends
none. -/
def isBreakEnd (before after : Option Char) : Bool :=
  before.any isLineBreak && !(before == some '\r' && after == some '\n')

/-- How many breaks a text has. -/
def breaks (text : List Char) : Nat := places isBreakEnd text

/-- Whether the text has a last character and that is no break. -/
def endsOpen (text : List Char) : Bool := text.getLast?.any fun c => !isLineBreak c

/-- Whether the last line of the first text, or the break that ends it, goes on in the second. -/
def RunsOver (a b : List Char) : Prop :=
  a ≠ [] ∧ b ≠ [] ∧ (endsOpen a ∨ a.getLast? = some '\r' ∧ b.head? = some '\n')

instance (a b : List Char) : Decidable (RunsOver a b) :=
  inferInstanceAs (Decidable (_ ∧ _ ∧ (_ ∨ _ ∧ _)))

end Text

open Text

variable {c : Char} {cs : List Char}

theorem isLineBreak_iff : isLineBreak c ↔
    c.toNat ∈ [0x0A, 0x0B, 0x0C, 0x0D, 0x1C, 0x1D, 0x1E, 0x85, 0x2028, 0x2029] := by
  have hchar : ∀ d : Char, c = d ↔ c.toNat = d.toNat := fun d => Char.toNat_inj.symm
  simp only [isLineBreak, Bool.or_eq_true, beq_iff_eq, hchar, List.mem_cons, List.not_mem_nil,
    or_false]
  simp
  omega

/-! ## One character at a time -/

theorem linesFrom_nil (opened : Bool) : linesFrom opened [] = opened.toNat := by
  cases opened <;> rfl

theorem linesFrom_cons_of_not_pair (h : ¬ (c = '\r' ∧ cs.head? = some '\n')) (opened : Bool) :
    linesFrom opened (c :: cs) =
      if isLineBreak c then 1 + linesFrom false cs else linesFrom true cs := by
  rw [linesFrom.eq_def]
  split
  · next heq => cases heq
  · next heq =>
    obtain ⟨rfl, rfl⟩ := List.cons.inj heq
    exact absurd ⟨rfl, rfl⟩ h
  · next heq =>
    obtain ⟨rfl, rfl⟩ := List.cons.inj heq
    rfl

/-- **One step.** The first character of a text ends a break or does not; of what came before
nothing else is left than whether the character is a break. -/
theorem linesFrom_cons (opened : Bool) (c : Char) (cs : List Char) :
    linesFrom opened (c :: cs) =
      (isBreakEnd (some c) cs.head?).toNat + linesFrom (!isLineBreak c) cs := by
  by_cases hpair : c = '\r' ∧ cs.head? = some '\n'
  · obtain ⟨rfl, hhead⟩ := hpair
    obtain ⟨cs, rfl⟩ := List.head?_eq_some_iff.mp hhead
    -- The break is counted with its line feed.
    have hend : isBreakEnd (some '\r') ('\n' :: cs).head? = false := rfl
    have hfeed : ∀ opened, linesFrom opened ('\n' :: cs) = 1 + linesFrom false cs := fun opened =>
      (linesFrom_cons_of_not_pair (by simp) opened).trans (if_pos rfl)
    rw [hfeed, hend, Bool.toNat_false, Nat.zero_add]
    rfl
  · rw [linesFrom_cons_of_not_pair hpair]
    have hend : isBreakEnd (some c) cs.head? = isLineBreak c := by
      rcases not_and_or.mp hpair with h | h <;> simp [isBreakEnd, h]
    rw [hend]
    cases isLineBreak c with
    | true => rfl
    | false => exact (Nat.zero_add _).symm

/-! ## A whole text -/

theorem linesFrom_add (before : Option Char) (text : List Char) :
    linesFrom (before.any fun c => !isLineBreak c) text + (isBreakEnd before text.head?).toNat =
      placesFrom isBreakEnd before text +
        ((text.getLast?.or before).any fun c => !isLineBreak c).toNat := by
  -- The induction over the text. `before` stands in front of it, and the break that it may end is
  -- counted on both sides.
  induction text generalizing before with
  | nil =>
    rw [linesFrom_nil, placesFrom, List.getLast?_nil, Option.none_or, List.head?_nil, Nat.add_comm]
  | cons c cs ih =>
    have hrest := ih (some c)
    rw [Option.any_some] at hrest
    rw [linesFrom_cons, placesFrom, getLast?_cons_or, List.head?_cons]
    omega

/-- **Lines are told from breaks.** -/
theorem lineCount_eq (text : List Char) :
    lineCount text = breaks text + (endsOpen text).toNat := by
  have h := linesFrom_add none text
  rwa [Option.or_none, ← places_eq_placesFrom] at h

theorem isBreakEnd_add_endsOpen {text : List Char} (h : text ≠ []) :
    (isBreakEnd text.getLast? none).toNat + (endsOpen text).toNat = 1 := by
  rw [endsOpen, List.getLast?_eq_some_getLast h]
  cases hbreak : isLineBreak (text.getLast h) <;> simp [isBreakEnd, hbreak]

theorem runsOver_iff {a b : List Char} (ha : a ≠ []) (hb : b ≠ []) :
    RunsOver a b ↔ isBreakEnd a.getLast? b.head? = false := by
  rw [RunsOver, endsOpen, List.getLast?_eq_some_getLast ha, List.head?_eq_some_head hb]
  cases hbreak : isLineBreak (a.getLast ha) with
  | true => simp [isBreakEnd, hbreak, ha, hb]
  | false => simp [isBreakEnd, hbreak, ha, hb]

theorem lineCount_append (a b : List Char) :
    lineCount (a ++ b) + (if RunsOver a b then 1 else 0) = lineCount a + lineCount b := by
  by_cases ha : a = []
  · simp [ha, RunsOver, lineCount, linesFrom_nil]
  by_cases hb : b = []
  · simp [hb, RunsOver, lineCount, linesFrom_nil]
  have hover : (if RunsOver a b then 1 else 0) + (isBreakEnd a.getLast? b.head?).toNat = 1 := by
    simp only [runsOver_iff ha hb]
    cases isBreakEnd a.getLast? b.head? <;> rfl
  have hend := isBreakEnd_add_endsOpen ha
  have hcut := placesFrom_append isBreakEnd none a b
  have hfront := placesFrom_add isBreakEnd none a.getLast? b
  have hnone : isBreakEnd none b.head? = false := rfl
  have hopen : endsOpen (a ++ b) = endsOpen b := by
    rw [endsOpen, endsOpen, List.getLast?_append_of_ne_nil a hb]
  rw [Option.or_none] at hcut
  rw [hnone, Bool.toNat_false, Nat.add_zero] at hfront
  simp only [lineCount_eq, breaks, places_eq_placesFrom, hopen]
  omega

/-- **The laws of lines.** What a break is, how many lines a text has, and how many two texts have
one behind the other. -/
theorem lineCount_laws :
    (∀ c, isLineBreak c ↔
      c.toNat ∈ [0x0A, 0x0B, 0x0C, 0x0D, 0x1C, 0x1D, 0x1E, 0x85, 0x2028, 0x2029]) ∧
    (∀ text, lineCount text = breaks text + if endsOpen text then 1 else 0) ∧
    ∀ a b, lineCount (a ++ b) + (if RunsOver a b then 1 else 0) = lineCount a + lineCount b := by
  refine ⟨fun c => isLineBreak_iff, fun text => ?_, lineCount_append⟩
  rw [lineCount_eq]
  cases endsOpen text <;> rfl

-- The break of two characters is cut in the middle.
example : lineCount "a\r\r\nb".toList = 3 ∧
    lineCount "a\r\r".toList + lineCount "\nb".toList = 4 := by
  decide

end Readiness
