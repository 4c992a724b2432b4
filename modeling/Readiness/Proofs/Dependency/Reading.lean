import Readiness.Dependency
import Readiness.Proofs.Text.Scan
import Readiness.Proofs.Unicode.Fold

/-!
# Reading declarations

A direct reader for the declarations of a build file, without patterns. A declaration begins with
the name of its command in any case, not behind a word character, then blanks and an opening
parenthesis. What is read behind the parenthesis depends on the form of the declaration.

* `BuildFile.afterCommand?` : the text behind a command and its parenthesis.
* `BuildFile.packageName`, `BuildFile.arguments` : what is read behind the parenthesis.
* `BuildFile.declaration` : the reader of a declaration.
* `BuildFile.moduleNames`, `BuildFile.linkedNames` : the names in the arguments.
-/

namespace Readiness.BuildFile

open Unicode

/-! ## Commands -/

/-- The text behind a name with which the text begins, in any case. -/
def afterName? : (name : List Char) → List Char → Option (List Char)
  | [], text => some text
  | _ :: _, [] => none
  | n :: name, x :: text => if foldCase x = foldCase n then afterName? name text else none

/-- The text behind an opening parenthesis. -/
def afterParen? : List Char → Option (List Char)
  | '(' :: inner => some inner
  | _ => none

/-- The text behind a name with which the text begins, blanks and an opening parenthesis. -/
def afterCommand? (name text : List Char) : Option (List Char) :=
  (afterName? name text).bind fun rest => afterParen? (rest.dropWhile isBlank)

theorem afterParen?_eq_some {text inner : List Char} (h : afterParen? text = some inner) :
    text = '(' :: inner := by
  unfold afterParen? at h
  split at h
  · cases h
    rfl
  · cases h

theorem afterParen?_append {text : List Char} (hne : text ≠ []) (more : List Char) :
    afterParen? (text ++ more) = (afterParen? text).map (· ++ more) := by
  obtain ⟨x, xs, rfl⟩ := List.exists_cons_of_ne_nil hne
  by_cases hx : x = '(' <;> simp [afterParen?, hx]

theorem afterName?_eq_some {name text rest : List Char} (h : afterName? name text = some rest) :
    ∃ spelled, spelled.map foldCase = name.map foldCase ∧ text = spelled ++ rest := by
  induction name generalizing text with
  | nil =>
    cases h
    exact ⟨[], rfl, rfl⟩
  | cons n name ih =>
    cases text with
    | nil => cases h
    | cons x text =>
      rw [afterName?] at h
      split_ifs at h with hx
      obtain ⟨spelled, hspelled, rfl⟩ := ih h
      exact ⟨x :: spelled, by rw [List.map_cons, List.map_cons, hx, hspelled], rfl⟩

theorem afterCommand?_eq_some {name text inner : List Char}
    (h : afterCommand? name text = some inner) :
    ∃ spelled blanks, spelled.map foldCase = name.map foldCase ∧ (∀ x ∈ blanks, isBlank x) ∧
      text = spelled ++ (blanks ++ '(' :: inner) := by
  obtain ⟨rest, hname, hopen⟩ := Option.bind_eq_some_iff.mp h
  obtain ⟨spelled, hspelled, rfl⟩ := afterName?_eq_some hname
  refine ⟨spelled, rest.takeWhile isBlank, hspelled, fun x hx => List.mem_takeWhile_imp hx, ?_⟩
  rw [← afterParen?_eq_some hopen, List.takeWhile_append_dropWhile]

/-! ## Behind the parenthesis -/

/-- A way to read what stands behind the parenthesis of a declaration. The result comes with the
text that is left. -/
structure Content where
  read? : List Char → Option (List Char × List Char)
  leaves : ∀ text content after, read? text = some (content, after) → after <:+ text

/-- The longest run of word characters behind any blanks; there must be one. -/
def packageName : Content where
  read? text :=
    let name := (text.dropWhile isBlank).takeWhile isWord
    if name = [] then none else some (name, (text.dropWhile isBlank).dropWhile isWord)
  leaves := by
    intro text content after h
    simp only at h
    split_ifs at h
    cases h
    exact (List.dropWhile_suffix _).trans (List.dropWhile_suffix _)

/-- All text up to the first closing parenthesis; there must be one. -/
def arguments : Content where
  read? text :=
    match text.dropWhile (· != ')') with
    | [] => none
    | _ :: after => some (text.takeWhile (· != ')'), after)
  leaves := by
    intro text content after h
    simp only at h
    split at h
    · cases h
    · next hrest =>
      cases h
      exact (List.suffix_cons _ _).trans (hrest ▸ List.dropWhile_suffix _)

theorem arguments_read?_of_nil {text : List Char} (h : text.dropWhile (· != ')') = []) :
    arguments.read? text = none := by
  simp only [arguments, h]

theorem arguments_read?_of_cons {x : Char} {text after : List Char}
    (h : text.dropWhile (· != ')') = x :: after) :
    arguments.read? text = some (text.takeWhile (· != ')'), after) := by
  simp only [arguments, h]

theorem arguments_read?_eq_some_iff {text content after : List Char} :
    arguments.read? text = some (content, after) ↔
      text = content ++ ')' :: after ∧ ∀ x ∈ content, x ≠ ')' := by
  simp only [arguments]
  constructor
  · intro h
    split at h
    · cases h
    · next x after' hdrop =>
      cases h
      obtain rfl : x = ')' := by
        have hhead := List.head?_dropWhile_not (· != ')') text
        rw [hdrop] at hhead
        simpa using hhead
      refine ⟨?_, fun y hy => by simpa using List.mem_takeWhile_imp hy⟩
      rw [← hdrop, List.takeWhile_append_dropWhile]
  · rintro ⟨rfl, hcontent⟩
    have hbefore : ∀ x ∈ content, (x != ')') = true := fun x hx => by simpa using hcontent x hx
    rw [List.dropWhile_append_of_pos hbefore, List.takeWhile_append_of_pos hbefore]
    simp

theorem packageName_read?_eq_some_iff {text name after : List Char} :
    packageName.read? text = some (name, after) ↔
      ∃ blanks, text = blanks ++ (name ++ after) ∧ (∀ x ∈ blanks, isBlank x) ∧ name ≠ [] ∧
        (∀ x ∈ name, isWord x) ∧ ∀ x ∈ after.head?, ¬ isWord x := by
  simp only [packageName]
  constructor
  · intro h
    split_ifs at h with hname
    cases h
    refine ⟨text.takeWhile isBlank, ?_, fun x hx => List.mem_takeWhile_imp hx, hname,
      fun x hx => List.mem_takeWhile_imp hx, fun x hx => ?_⟩
    · rw [List.takeWhile_append_dropWhile, List.takeWhile_append_dropWhile]
    · have hhead := List.head?_dropWhile_not isWord (text.dropWhile isBlank)
      rw [Option.mem_def.mp hx] at hhead
      simpa using hhead
  · rintro ⟨blanks, rfl, hblanks, hne, hname, hafter⟩
    have hstart : (name ++ after).dropWhile isBlank = name ++ after := by
      obtain ⟨x, xs, rfl⟩ := List.exists_cons_of_ne_nil hne
      refine List.dropWhile_cons_of_neg fun hx => ?_
      have hword := hname x List.mem_cons_self
      rw [not_isWord_of_isBlank hx] at hword
      cases hword
    have hstop : after.takeWhile isWord = [] ∧ after.dropWhile isWord = after := by
      cases after with
      | nil => exact ⟨rfl, rfl⟩
      | cons x xs =>
        have hx := hafter x rfl
        exact ⟨List.takeWhile_cons_of_neg hx, List.dropWhile_cons_of_neg hx⟩
    rw [List.dropWhile_append_of_pos hblanks, hstart, List.takeWhile_append_of_pos hname,
      List.dropWhile_append_of_pos hname, hstop.1, hstop.2, List.append_nil, if_neg hne]

/-- Reads a declaration by the command of that name at a place that is not behind a word
character. -/
def declaration (name : String) (content : Content) : Text.Reader (List Char) where
  read? before rest :=
    if before.any isWord then none else (afterCommand? name.toList rest).bind content.read?
  consumes := by
    intro before rest a after h
    split_ifs at h
    obtain ⟨inner, hcommand, hread⟩ := Option.bind_eq_some_iff.mp h
    obtain ⟨spelled, blanks, -, -, rfl⟩ := afterCommand?_eq_some hcommand
    obtain ⟨taken, rfl⟩ := content.leaves inner a after hread
    refine ⟨spelled ++ (blanks ++ '(' :: taken), by simp, ?_⟩
    simp only [List.append_assoc, List.cons_append]

/-! ## Names -/

/-- The modules in the arguments of a declaration: of all pieces between blanks but the first one
and the keywords, what stands before the first character that is neither alphanumeric nor an
underscore. -/
def moduleNames (arguments : List Char) : List (List Char) :=
  let items := ((arguments.splitOnP isBlank).filter (· ≠ [])).tail
  ((items.filter fun item => String.ofList item ∉ moduleKeywords).map
    (List.takeWhile fun x => isAlphanumeric x || x == '_')).filter (· ≠ [])

/-- The name that a link item gives, if it is no keyword: the item itself or what stands behind
`-l`, if this is made of word characters. -/
def linkedName? (item : List Char) : Option (List Char) :=
  let name := if ['-', 'l'] <+: item then item.drop 2 else item
  if String.ofList item ∉ linkKeywords ∧ name ≠ [] ∧ ∀ x ∈ name, isWord x then some name else none

/-- The libraries in the arguments of a declaration, less the first piece between blanks. -/
def linkedNames (arguments : List Char) : List (List Char) :=
  (((arguments.splitOnP isBlank).filter (· ≠ [])).tail).filterMap linkedName?

end Readiness.BuildFile
