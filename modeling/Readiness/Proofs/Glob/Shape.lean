import Readiness.Glob
import Readiness.Proofs.Disk.Names
import Readiness.Proofs.Text.Pieces

/-!
# Usual shapes of globs

Globs for everything below a folder, for all files of a name and for all paths with an ending, with
the paths that they cover.

* `GlobText` : a text that stands for itself in a glob.
* `GlobShape` : the shapes, with their sources and the paths that they are for.
* `Glob.readTokens_plain` : such a text is read as its characters.
* `GlobShape.parse_source`, `GlobShape.covers_iff` : the glob of a shape covers the paths that the
  shape is for, and no others.
-/

namespace Readiness

/-- A text without wildcards. -/
structure GlobText where
  text : String
  ne_empty : text ≠ ""
  plain : ∀ c ∈ text.toList, c ≠ '*' ∧ c ≠ '?' ∧ c ≠ '['

/-- A usual shape of globs. -/
inductive GlobShape where
  /-- Everything below the folder. -/
  | below (folder : GlobText)
  /-- Every path with this last component. -/
  | named (name : GlobText) (single : '/' ∉ name.text.toList)
  /-- Every path with this ending. -/
  | ending (tail : GlobText)

namespace GlobShape

def source : GlobShape → String
  | .below folder => folder.text ++ "/**"
  | .named name _ => "**/" ++ name.text
  | .ending tail => "*" ++ tail.text

/-- Whether the shape is for the path. -/
def Has : GlobShape → (path : String) → Prop
  | .below folder, path => (folder.text ++ "/").toList <+: path.toList
  | .named name _, path => (Text.splitAt '/' path.toList).getLast? = some name.text.toList
  | .ending tail, path => tail.text.toList <:+ path.toList

instance : (shape : GlobShape) → (path : String) → Decidable (shape.Has path)
  | .below folder, path =>
    inferInstanceAs (Decidable ((folder.text ++ "/").toList <+: path.toList))
  | .named name _, path =>
    inferInstanceAs (Decidable ((Text.splitAt '/' path.toList).getLast? = some name.text.toList))
  | .ending tail, path => inferInstanceAs (Decidable (tail.text.toList <:+ path.toList))

/-- The parts of the glob of the shape. -/
def tokens : GlobShape → List GlobToken
  | .below folder => folder.text.toList.map .char ++ [.char '/', .deep]
  | .named name _ => .deep :: name.text.toList.map .char
  | .ending tail => .many :: tail.text.toList.map .char

end GlobShape

/-! ## Reading -/

namespace Glob

theorem readTokens_of_readToken {i : Nat} {prev : Option Char} {c : Char} {cs after : List Char}
    {token : GlobToken} (h : readToken i prev c cs = .ok (token, after)) (fuel : Nat) :
    readTokens (fuel + 1) i prev (c :: cs) =
      (readTokens fuel (i + ((c :: cs).length - after.length))
        (c :: cs)[(c :: cs).length - after.length - 1]? after).map (token :: ·) := by
  rw [readTokens, h]
  rfl

theorem readToken_plain {c : Char} (hc : c ≠ '*' ∧ c ≠ '?' ∧ c ≠ '[') (i : Nat)
    (prev : Option Char) (cs : List Char) : readToken i prev c cs = .ok (.char c, cs) := by
  obtain ⟨hstar, hany, hset⟩ := hc
  unfold readToken
  split
  · exact absurd rfl hany
  · exact absurd rfl hstar
  · exact absurd rfl hset
  · rfl

theorem readToken_star {cs : List Char} (h : cs.head? ≠ some '*') (i : Nat) (prev : Option Char) :
    readToken i prev '*' cs = .ok (.many, cs) := by
  simp only [readToken]
  split
  · exact absurd rfl h
  · exact absurd rfl h
  · rfl

/-- **A text without wildcards is read as its characters.** -/
theorem readTokens_plain {s rest : List Char} (h : ∀ c ∈ s, c ≠ '*' ∧ c ≠ '?' ∧ c ≠ '[')
    {fuel : Nat} {prev : Option Char} {ts : List GlobToken}
    (hrest : ∀ i, readTokens fuel i (s.getLast?.or prev) rest = .ok ts) (i : Nat) :
    readTokens (s.length + fuel) i prev (s ++ rest) = .ok (s.map .char ++ ts) := by
  induction s generalizing i prev with
  | nil => simpa using hrest i
  | cons c s ih =>
    rw [List.forall_mem_cons] at h
    have hlast : (c :: s).getLast?.or prev = s.getLast?.or (some c) := by
      cases s with
      | nil => rfl
      | cons d s => simp [List.getLast?_cons]
    have hstep := readTokens_of_readToken (readToken_plain h.1 i prev (s ++ rest)) (s.length + fuel)
    have hused : (c :: (s ++ rest)).length - (s ++ rest).length = 1 := by simp
    rw [hused] at hstep
    rw [hlast] at hrest
    rw [List.cons_append, List.length_cons, Nat.add_right_comm, hstep]
    simp only [Nat.sub_self, List.getElem?_cons_zero]
    rw [ih h.2 hrest]
    rfl

theorem readTokens_plain_end {s : List Char} (h : ∀ c ∈ s, c ≠ '*' ∧ c ≠ '?' ∧ c ≠ '[')
    (fuel i : Nat) (prev : Option Char) :
    readTokens (s.length + (fuel + 1)) i prev s = .ok (s.map .char) := by
  have hend : ∀ i prev, readTokens (fuel + 1) i prev [] = .ok [] := fun _ _ => rfl
  have hread := readTokens_plain h (fun i => hend i (s.getLast?.or prev)) i
  rwa [List.append_nil, List.append_nil] at hread

end Glob

namespace GlobShape

theorem readTokens_below (folder : GlobText) :
    Glob.readTokens (((folder.text ++ "/**").toList).length + 1) 0 none
      (folder.text ++ "/**").toList = .ok (below folder).tokens := by
  have hfront : ∀ c ∈ folder.text.toList ++ ['/'], c ≠ '*' ∧ c ≠ '?' ∧ c ≠ '[' := by
    intro c hc
    rcases List.mem_append.mp hc with hc | hc
    · exact folder.plain c hc
    · obtain rfl := List.mem_singleton.mp hc
      decide
  have hdeep : ∀ i, Glob.readTokens 3 i ((folder.text.toList ++ ['/']).getLast?.or none)
      ['*', '*'] = .ok [.deep] := by
    intro i
    rw [List.getLast?_concat]
    rfl
  have hread := Glob.readTokens_plain hfront hdeep 0
  have htext : (folder.text ++ "/**").toList = folder.text.toList ++ ['/'] ++ ['*', '*'] := by
    simp
  have hlength : ((folder.text ++ "/**").toList).length + 1 =
      (folder.text.toList ++ ['/']).length + 3 := by
    simp
  rw [hlength, htext, hread]
  simp [tokens]

theorem readTokens_named (name : GlobText) (single : '/' ∉ name.text.toList) :
    Glob.readTokens (("**/" ++ name.text).toList.length + 1) 0 none ("**/" ++ name.text).toList =
      .ok (named name single).tokens := by
  have htext : ("**/" ++ name.text).toList = '*' :: '*' :: '/' :: name.text.toList := by
    simp
  have hdeep : Glob.readToken 0 none '*' ('*' :: '/' :: name.text.toList) =
      .ok (.deep, name.text.toList) := rfl
  have hread := Glob.readTokens_plain_end name.plain 2 3 (some '/')
  have hused : ('*' :: '*' :: '/' :: name.text.toList).length - name.text.toList.length = 3 := by
    simp only [List.length_cons]
    omega
  have hstep := Glob.readTokens_of_readToken hdeep (name.text.toList.length + 3)
  rw [hused] at hstep
  rw [htext]
  refine hstep.trans ?_
  show (Glob.readTokens (name.text.toList.length + 3) 3 (some '/') name.text.toList).map _ = _
  rw [hread]
  rfl

theorem readTokens_ending (tail : GlobText) :
    Glob.readTokens (("*" ++ tail.text).toList.length + 1) 0 none ("*" ++ tail.text).toList =
      .ok (ending tail).tokens := by
  have htext : ("*" ++ tail.text).toList = '*' :: tail.text.toList := by
    simp
  have hhead : tail.text.toList.head? ≠ some '*' := fun h =>
    (tail.plain '*' (List.mem_of_mem_head? h)).1 rfl
  have hread := Glob.readTokens_plain_end tail.plain 0 1 (some '*')
  have hused : ('*' :: tail.text.toList).length - tail.text.toList.length = 1 := by
    simp only [List.length_cons]
    omega
  have hstep := Glob.readTokens_of_readToken (Glob.readToken_star hhead 0 none)
    (tail.text.toList.length + 1)
  rw [hused] at hstep
  rw [htext]
  refine hstep.trans ?_
  show (Glob.readTokens (tail.text.toList.length + 1) 1 (some '*') tail.text.toList).map _ = _
  rw [hread]
  rfl

/-- **The glob of a shape is read as its parts.** -/
theorem parse_source (shape : GlobShape) :
    Glob.parse shape.source = .ok ⟨shape.source, shape.tokens⟩ := by
  have hread : Glob.readTokens (shape.source.toList.length + 1) 0 none shape.source.toList =
      .ok shape.tokens := by
    cases shape with
    | below folder => exact readTokens_below folder
    | named name single => exact readTokens_named name single
    | ending tail => exact readTokens_ending tail
  simp only [Glob.parse, hread]
  rfl

end GlobShape

/-! ## What is covered -/

namespace Glob

theorem fits_plain {s : List Char} {ts : List GlobToken} {cs : List Char} :
    fits (s.map .char ++ ts) cs = true ↔ ∃ rest, cs = s ++ rest ∧ fits ts rest = true := by
  induction s generalizing cs with
  | nil => simp
  | cons c s ih =>
    cases cs with
    | nil => simp [fits]
    | cons x xs =>
      have hstep : fits (.char c :: (s.map .char ++ ts)) (x :: xs) =
          ((x == c) && fits (s.map .char ++ ts) xs) := rfl
      rw [List.map_cons, List.cons_append, hstep, Bool.and_eq_true, ih]
      simp only [beq_iff_eq, List.cons_append, List.cons.injEq]
      constructor
      · rintro ⟨rfl, rest, rfl, hrest⟩
        exact ⟨rest, ⟨rfl, rfl⟩, hrest⟩
      · rintro ⟨rest, ⟨rfl, rfl⟩, hrest⟩
        exact ⟨rfl, rest, rfl, hrest⟩

theorem fits_plain_end {s cs : List Char} : fits (s.map .char) cs = true ↔ cs = s := by
  have hfits : fits (s.map .char ++ []) cs = true ↔ _ := fits_plain
  rw [List.append_nil] at hfits
  rw [hfits]
  simp [fits]

theorem mem_suffixes_iff {s cs : List Char} : s ∈ suffixes cs ↔ s <:+ cs := by
  induction cs with
  | nil => simp [suffixes]
  | cons c cs ih => rw [suffixes, List.mem_cons, ih, List.suffix_cons_iff]

theorem mem_afterSeparators_iff {s cs : List Char} :
    s ∈ afterSeparators cs ↔ ∃ front, cs = front ++ '/' :: s := by
  induction cs with
  | nil => simp [afterSeparators]
  | cons c cs ih =>
    have htail : s ∈ afterSeparators (c :: cs) ↔ c = '/' ∧ s = cs ∨ s ∈ afterSeparators cs := by
      rw [afterSeparators]
      split_ifs with hc
      · simp [beq_iff_eq.mp hc]
      · simp [show c ≠ '/' by simpa using hc]
    rw [htail, ih]
    constructor
    · rintro (⟨rfl, rfl⟩ | ⟨front, rfl⟩)
      · exact ⟨[], rfl⟩
      · exact ⟨c :: front, rfl⟩
    · rintro ⟨front, hfront⟩
      cases front with
      | nil =>
        obtain ⟨rfl, rfl⟩ := List.cons.inj hfront
        exact .inl ⟨rfl, rfl⟩
      | cons d front =>
        obtain ⟨-, rfl⟩ := List.cons.inj hfront
        exact .inr ⟨front, rfl⟩

end Glob

theorem Text.getLast?_splitAt_iff {sep : Char} {s p : List Char} :
    (splitAt sep s).getLast? = some p ↔ sep ∉ p ∧ (s = p ∨ ∃ front, s = front ++ sep :: p) := by
  constructor
  · intro h
    obtain ⟨init, hinit⟩ := List.getLast?_eq_some_iff.mp h
    have hs : joinWith [sep] (splitAt sep s) = s := joinWith_splitAt s
    refine ⟨not_mem_of_mem_splitAt (s := s) (by simp [hinit]), ?_⟩
    rw [hinit] at hs
    by_cases hne : init = []
    · left
      rw [← hs, hne]
      rfl
    · right
      rw [joinWith_append hne (by simp)] at hs
      exact ⟨_, hs.symm⟩
  · rintro ⟨hp, rfl | ⟨front, rfl⟩⟩
    · rw [splitAt_of_not_mem hp]
      rfl
    · rw [splitAt_append_sep, splitAt_of_not_mem hp, List.getLast?_concat]

namespace GlobShape

/-- **The glob of a shape covers the paths that the shape is for**, and no others. -/
theorem covers_iff (shape : GlobShape) (path : String) :
    Glob.covers ⟨shape.source, shape.tokens⟩ path = true ↔ shape.Has path := by
  show Glob.fits shape.tokens path.toList = true ↔ shape.Has path
  cases shape with
  | below folder =>
    have hdeep : ∀ rest, Glob.fits [.deep] rest = true := fun rest => by simp [Glob.fits]
    have htokens : (below folder).tokens = (folder.text ++ "/").toList.map .char ++ [.deep] := by
      simp [tokens]
    rw [htokens, Glob.fits_plain]
    simp only [hdeep, and_true, Has]
    exact ⟨fun ⟨rest, h⟩ => ⟨rest, h.symm⟩, fun ⟨rest, h⟩ => ⟨rest, h.symm⟩⟩
  | named name single =>
    have hne : name.text.toList ≠ [] := mt String.toList_eq_nil_iff.mp name.ne_empty
    have hempty : Glob.fits (name.text.toList.map .char) [] = false := by
      rw [← Bool.not_eq_true, Glob.fits_plain_end]
      exact Ne.symm hne
    simp only [Has, tokens, Glob.fits, hempty, Bool.or_false, Bool.or_eq_true, List.any_eq_true,
      Glob.fits_plain_end, Glob.mem_afterSeparators_iff, Text.getLast?_splitAt_iff]
    constructor
    · rintro (h | ⟨_, hfront, rfl⟩)
      · exact ⟨single, .inl h⟩
      · exact ⟨single, .inr hfront⟩
    · rintro ⟨-, h | hfront⟩
      · exact .inl h
      · exact .inr ⟨_, hfront, rfl⟩
  | ending tail =>
    simp only [Has, tokens, Glob.fits, List.any_eq_true, Glob.mem_suffixes_iff,
      Glob.fits_plain_end]
    exact ⟨fun ⟨_, h, heq⟩ => heq ▸ h, fun h => ⟨_, h, rfl⟩⟩

/-- Folders with longer names and folders of the same name in others are not meant. -/
example : let shape := below ⟨"vendor", by decide, by simp⟩
    shape.Has "vendor/x.c" ∧ ¬ shape.Has "vendor2/x.c" ∧ ¬ shape.Has "a/vendor/x.c" := by
  decide +kernel

end GlobShape

end Readiness
