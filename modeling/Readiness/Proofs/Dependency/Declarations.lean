import Readiness.Proofs.Dependency.Reading
import Readiness.Proofs.Dependency.Summary
import Readiness.Proofs.Pattern.Reading
import Readiness.Proofs.Pattern.Run
import Readiness.Proofs.Text.Pieces

/-!
# Declarations are read directly

The patterns for declarations find what the direct reader reads: of the ways in which a pattern may
match behind a command, only the one that goes through the longest runs of blanks and of the wanted
characters can be completed.

* `BuildFile.command?` : the match of a command.
* `BuildFile.captures_packageDeclaration`, `BuildFile.captures_listDeclaration` : the captured
  parts.
* `BuildFile.declarations_eq_read` : the declarations of a build file, read directly.
-/

namespace Readiness.BuildFile

open Unicode Cursor

/-! ## The command -/

/-- The sets of the characters of a name. -/
def nameSets (name : List Char) : List CharSet := name.map fun n => .folded (.one n)

/-- The cursor behind a command and its parenthesis. -/
def command? (name : List Char) (c : Cursor) : Option Cursor :=
  if (Assertion.words .edge isWord).holds c.before c.rest.head? then
    (c.pastAll? (nameSets name)).bind fun d => (d.afterRun (.having isBlank)).past? (.one '(')
  else none

theorem past?_eq_none_of_not_has {set : CharSet} {d : Cursor}
    (h : ∀ x ∈ d.rest.head?, set.has x = false) : d.past? set = none := by
  obtain ⟨offset, before, rest⟩ := d
  cases rest with
  | nil => rfl
  | cons x xs => simp [past?, h x rfl]

theorem past?_paren_of_isBlank (d : Cursor) :
    ∀ x ∈ d.rest.head?, (CharSet.having isBlank).has x → d.past? (.one '(') = none := by
  intro x hx hblank
  refine past?_eq_none_of_not_has fun y hy => ?_
  obtain rfl : x = y := Option.some.inj (hx.symm.trans hy)
  have hparen : isBlank '(' = false := by decide
  rw [CharSet.has, beq_eq_false_iff_ne]
  rintro rfl
  rw [CharSet.has, hparen] at hblank
  cases hblank

theorem ends_command (name : String) (c : Cursor) :
    (Pattern.sequence (command name)).ends c = (command? name.toList c).toList := by
  have hsets : name.toList.map (fun n => Pattern.char (.folded (.one n))) =
      (nameSets name.toList).map .char := by
    rw [nameSets, List.map_map]
    rfl
  have hstart : Pattern.follow [c] wordEdge.ends =
      if (Assertion.words .edge isWord).holds c.before c.rest.head? then [c] else [] := rfl
  rw [Pattern.ends_sequence, command, hsets, List.cons_append, List.foldl_cons, hstart,
    List.foldl_append, command?]
  split_ifs with hedge
  · rw [Pattern.foldl_follow_sets (Pattern.descending_singleton c), List.filterMap_cons]
    cases c.pastAll? (nameSets name.toList) with
    | none => rfl
    | some d =>
      have hblanks : Pattern.follow [d] blanks.ends = d.runEnds (.having isBlank) 0 none true := rfl
      rw [List.filterMap_nil, List.foldl_cons, List.foldl_cons, List.foldl_nil, hblanks,
        Pattern.follow_char (descending_runEnds _ d), filterMap_runEnds past?_paren_of_isBlank]
      rfl
  · rw [Pattern.foldl_follow_sets List.Pairwise.nil]
    rfl

/-! ## The command as it is read -/

/-- Names of commands. -/
structure IsCommand (name : List Char) : Prop where
  ne_nil : name ≠ []
  small : ∀ n ∈ name, IsSmall n

instance (name : List Char) : Decidable (IsCommand name) :=
  decidable_of_iff (name ≠ [] ∧ name.all fun n => decide (IsSmall n))
    ⟨fun h => ⟨h.1, by simpa using h.2⟩, fun h => ⟨h.1, by simpa using h.2⟩⟩

theorem has_folded_one_iff {n x : Char} (hn : IsSmall n) :
    (CharSet.folded (.one n)).has x ↔ foldCase x = foldCase n := by
  rw [hn.foldCase_eq, ← mem_caseVariants_iff hn, CharSet.has, List.any_eq_true]
  constructor
  · rintro ⟨v, hv, hvn⟩
    rw [CharSet.has, beq_iff_eq] at hvn
    exact hvn ▸ hv
  · exact fun hmem => ⟨n, hmem, beq_self_eq_true n⟩

theorem map_pastAll?_nameSets {name : List Char} (hname : ∀ n ∈ name, IsSmall n) (c : Cursor) :
    (c.pastAll? (nameSets name)).map (·.rest) = afterName? name c.rest := by
  induction name generalizing c with
  | nil => rfl
  | cons n name ih =>
    rw [List.forall_mem_cons] at hname
    obtain ⟨offset, before, rest⟩ := c
    cases rest with
    | nil => rfl
    | cons x xs =>
      rw [nameSets, List.map_cons, ← nameSets, pastAll?, past?, afterName?]
      simp only [has_folded_one_iff hname.1]
      split_ifs
      · exact ih hname.2 _
      · rfl

theorem isWord_of_mem_spelled {name spelled : List Char} (hname : ∀ n ∈ name, IsSmall n)
    (h : spelled.map foldCase = name.map foldCase) : ∀ x ∈ spelled, isWord x := by
  intro x hx
  obtain ⟨n, hn, hfold⟩ := List.mem_map.mp (h ▸ List.mem_map_of_mem hx)
  rw [(hname n hn).foldCase_eq] at hfold
  exact isWord_of_foldCase (hname n hn) hfold.symm

theorem map_past?_paren (d : Cursor) : (d.past? (.one '(')).map (·.rest) = afterParen? d.rest := by
  obtain ⟨offset, before, rest⟩ := d
  cases rest with
  | nil => rfl
  | cons x xs => by_cases hx : x = '(' <;> simp [past?, afterParen?, CharSet.has, hx]

theorem map_command? {name : List Char} (hname : IsCommand name) (c : Cursor) :
    (command? name c).map (·.rest) =
      if c.before.any isWord then none else afterCommand? name c.rest := by
  have hread := map_pastAll?_nameSets hname.small c
  cases hpast : c.pastAll? (nameSets name) with
  | none =>
    rw [hpast, Option.map_none] at hread
    simp [command?, hpast, afterCommand?, ← hread]
  | some d =>
    rw [hpast, Option.map_some] at hread
    obtain ⟨spelled, hspelled, hrest⟩ := afterName?_eq_some hread.symm
    have hne : spelled ≠ [] := by
      rintro rfl
      exact hname.ne_nil (List.map_eq_nil_iff.mp hspelled.symm)
    obtain ⟨x, xs, rfl⟩ := List.exists_cons_of_ne_nil hne
    have hword : isWord x := isWord_of_mem_spelled hname.small hspelled x List.mem_cons_self
    have hedge : (Assertion.words .edge isWord).holds c.before c.rest.head? =
        !c.before.any isWord := by
      rw [hrest]
      simp [Assertion.holds, hword]
    rw [command?, hedge, hpast, afterCommand?, ← hread]
    cases c.before.any isWord with
    | true => rfl
    | false => exact map_past?_paren (d.afterRun (.having isBlank))

theorem declaration_read? {name : String} (hname : IsCommand name.toList) (content : Content)
    (c : Cursor) : (declaration name content).read? c.before c.rest =
      (command? name.toList c).bind fun d => content.read? d.rest := by
  have hbind : ((command? name.toList c).map (·.rest)).bind content.read? =
      (command? name.toList c).bind fun d => content.read? d.rest := Option.bind_map
  rw [← hbind, map_command? hname]
  show (if c.before.any isWord then none else _) = _
  split_ifs <;> rfl

/-! ## Packages -/

/-- The match of the wanted name behind a command. -/
def packageAt? (s : Cursor) : Option (Span × Cursor) :=
  if s.rest.takeWhile isWord = [] then none
  else some (⟨s, s.afterRun (.having isWord)⟩, s.afterRun (.having isWord))

theorem match?_packageDeclaration (c : Cursor) : packageDeclaration.match? c =
    (command? "find_package".toList c).bind fun d =>
      packageAt? (d.afterRun (.having isBlank)) := by
  have hlead : packageDeclaration.lead.ends c =
      Pattern.follow (command? "find_package".toList c).toList blanks.ends := by
    rw [← ends_command, packageDeclaration, Pattern.ends_sequence, List.foldl_append,
      ← Pattern.ends_sequence]
    rfl
  have hname : ∀ s, ((packageDeclaration.inner.ends s).findSome? fun e =>
      (packageDeclaration.tail.end? e).map fun d => ((⟨s, e⟩ : Span), d)) = packageAt? s := by
    intro s
    have hinner : packageDeclaration.inner.ends s = s.runEnds (.having isWord) 1 none true := rfl
    have htail : ∀ e, packageDeclaration.tail.end? e = some e := fun e => rfl
    have hfirst : ∀ es : List Cursor, (es.findSome? fun e =>
        (packageDeclaration.tail.end? e).map fun d => ((⟨s, e⟩ : Span), d)) =
          es.head?.map fun e => (⟨s, e⟩, e) := by
      intro es
      cases es with
      | nil => rfl
      | cons e es => rw [List.findSome?_cons, htail]; rfl
    have hset : (CharSet.having isWord).has = isWord := rfl
    rw [hfirst, hinner, head?_runEnds_one, packageAt?, hset]
    split_ifs <;> rfl
  rw [CapturePattern.match?, hlead]
  simp only [hname]
  cases command? "find_package".toList c with
  | none => rfl
  | some d =>
    have hblanks : Pattern.follow [d] blanks.ends = d.runEnds (.having isBlank) 0 none true := rfl
    rw [Option.toList_some, hblanks, findSome?_runEnds, Option.bind_some]
    -- A blank is no word character, so the name begins behind all blanks.
    intro s x hx hblank
    obtain ⟨xs, hrest⟩ := List.head?_eq_some_iff.mp hx
    rw [packageAt?, hrest, List.takeWhile_cons_of_neg (by simp [not_isWord_of_isBlank hblank]),
      if_pos rfl]

/-- **Packages are read directly.** -/
theorem captures_packageDeclaration (text : List Char) :
    packageDeclaration.captures text = (declaration "find_package" packageName).scanAll text := by
  refine CapturePattern.captures_eq_scanAll (fun c => ?_) text
  rw [declaration_read? (by decide +kernel), match?_packageDeclaration]
  cases command? "find_package".toList c with
  | none => rfl
  | some d =>
    rw [Option.bind_some, Option.bind_some, packageAt?]
    show _ = if (d.rest.dropWhile isBlank).takeWhile isWord = [] then none else _
    have hrest : (d.afterRun (.having isBlank)).rest = d.rest.dropWhile isBlank := rfl
    rw [hrest]
    split_ifs
    · rfl
    · rw [Option.map_some, Span.text, textTo_afterRun, hrest]
      rfl

/-! ## Lists -/

theorem match?_listDeclaration (name : String) (c : Cursor) : (listDeclaration name).match? c =
    (command? name.toList c).bind fun s =>
      ((s.afterRun (.compl (.one ')'))).past? (.one ')')).map fun d =>
        (⟨s, s.afterRun (.compl (.one ')'))⟩, d) := by
  have hlead : (listDeclaration name).lead.ends c = (command? name.toList c).toList :=
    ends_command name c
  have htail : ∀ e, (listDeclaration name).tail.end? e = e.past? (.one ')') := by
    intro e
    rw [listDeclaration, Pattern.end?, Pattern.ends_char]
    cases e.past? (.one ')') <;> rfl
  have hinner : ∀ s, (listDeclaration name).inner.ends s =
      s.runEnds (.compl (.one ')')) 0 none true := fun s => rfl
  rw [CapturePattern.match?, hlead]
  cases command? name.toList c with
  | none => rfl
  | some s =>
    simp only [Option.toList_some, List.findSome?_cons, List.findSome?_nil, Option.bind_some,
      htail, hinner]
    rw [findSome?_runEnds]
    · cases (s.afterRun (.compl (.one ')'))).past? (.one ')') <;> rfl
    · intro e x hx hset
      rw [past?_eq_none_of_not_has, Option.map_none]
      intro y hy
      obtain rfl : x = y := Option.some.inj (hx.symm.trans hy)
      simpa [CharSet.has] using hset

/-- **Lists of arguments are read directly.** -/
theorem captures_listDeclaration {name : String} (hname : IsCommand name.toList)
    (text : List Char) :
    (listDeclaration name).captures text = (declaration name arguments).scanAll text := by
  refine CapturePattern.captures_eq_scanAll (fun c => ?_) text
  rw [declaration_read? hname, match?_listDeclaration]
  cases command? name.toList c with
  | none => rfl
  | some s =>
    have hset : (CharSet.compl (.one ')')).has = (· != ')') := rfl
    have hrest : (s.afterRun (.compl (.one ')'))).rest = s.rest.dropWhile (· != ')') := rfl
    rw [Option.bind_some, Option.bind_some, past?, hrest]
    cases hdrop : s.rest.dropWhile (· != ')') with
    | nil =>
      rw [arguments_read?_of_nil hdrop]
      rfl
    | cons x xs =>
      have hx : (x != ')') = false := by
        have hhead := List.head?_dropWhile_not (· != ')') s.rest
        rw [hdrop] at hhead
        simpa using hhead
      have hparen : (CharSet.one ')').has x := by simpa [CharSet.has] using hx
      simp only [if_pos hparen, Option.map_some, Span.text, textTo_afterRun, hset,
        arguments_read?_of_cons hdrop]

/-! ## Names -/

theorem modulesIn_eq (arguments : List Char) :
    modulesIn arguments = (moduleNames arguments).map String.ofList := by
  have hnames : ∀ items : List (List Char), items.filterMap moduleName? =
      ((items.map (List.takeWhile fun x => isAlphanumeric x || x == '_')).filter
        (· ≠ [])).map String.ofList := by
    intro items
    induction items with
    | nil => rfl
    | cons item items ih =>
      rw [List.filterMap_cons, ih, List.map_cons, List.filter_cons, moduleName?]
      cases item.takeWhile (fun x => isAlphanumeric x || x == '_') <;> simp
  rw [modulesIn, hnames, Text.words_eq, moduleNames, List.drop_one]
  simp

theorem libraryName?_eq (item : List Char) :
    libraryName? item = (linkedName? item).map String.ofList := by
  have hplain : (∀ name, item ≠ '-' :: 'l' :: name) → ¬ ['-', 'l'] <+: item := by
    rintro h ⟨name, hname⟩
    exact h name hname.symm
  fun_cases libraryName? item with
  | case1 hkeyword => simp_all [linkedName?]
  | case2 name hkeyword hword => simp_all [linkedName?]
  | case3 name hkeyword hword => simp_all [linkedName?]
  | case4 hkeyword hitem hword => simp_all [linkedName?]
  | case5 hkeyword hitem hword => simp_all [linkedName?]

theorem librariesIn_eq (arguments : List Char) :
    librariesIn arguments = (linkedNames arguments).map String.ofList := by
  rw [librariesIn, Text.words_eq, linkedNames, List.drop_one, List.map_filterMap]
  exact congrArg (fun f => List.filterMap f _) (funext libraryName?_eq)

/-! ## The declarations of a build file -/

/-- **The declarations of a build file are read directly**, form by form: packages, then modules,
then libraries. -/
theorem declarations_eq_read (text : List Char) : declarations text =
    ((declaration "find_package" packageName).scanAll text).map
        (fun name => (String.ofList name, true)) ++
      (((declaration "pkg_check_modules" arguments).scanAll text).flatMap moduleNames).map
        (fun name => (String.ofList name, true)) ++
      (((declaration "target_link_libraries" arguments).scanAll text).flatMap linkedNames).map
        (fun name => (String.ofList name, false)) := by
  have hnames : ∀ (namesIn : List Char → List String) (names : List Char → List (List Char))
      (lists : List (List Char)), (∀ list, namesIn list = (names list).map String.ofList) →
      lists.flatMap namesIn = (lists.flatMap names).map String.ofList := by
    intro namesIn names lists h
    rw [List.map_flatMap]
    exact List.flatMap_congr fun list _ => h list
  rw [declarations, packages, modules, libraries, captures_packageDeclaration,
    captures_listDeclaration (by decide +kernel), captures_listDeclaration (by decide +kernel),
    hnames modulesIn moduleNames _ modulesIn_eq, hnames librariesIn linkedNames _ librariesIn_eq]
  simp only [List.map_map]
  rfl

-- The name of a command is also an argument here; the last declaration is not closed.
example : declarations "PKG_check_modules (P REQUIRED a>=1 find_package(b) find_package(".toList =
    [("b", true), ("a", true), ("find_package", true)] := by
  decide +kernel

end Readiness.BuildFile
