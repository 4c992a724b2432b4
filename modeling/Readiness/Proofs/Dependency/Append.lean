import Readiness.Proofs.Dependency.Declarations

/-!
# More declarations at the end

Lines at the end of a build file never take a dependency away. They may complete a declaration that
was left open. Behind the parenthesis of an open declaration nothing completes any declaration, so
that no other declaration was read from there on, and what is completed swallows nothing.

* `BuildFile.Content.Keeps` : what more text does to the content of a declaration.
* `BuildFile.not_opened_of_completed` : nothing is read behind an open declaration.
* `BuildFile.names_prefix_append` : the names of each form come first among those of a longer text.
* `BuildFile.dependencies_append` : dependencies stay, with their flags.
-/

namespace Readiness.BuildFile

open Unicode

/-! ## Commands in longer texts -/

theorem afterName?_append {name text rest : List Char} (h : afterName? name text = some rest)
    (more : List Char) : afterName? name (text ++ more) = some (rest ++ more) := by
  induction name generalizing text with
  | nil =>
    cases h
    rfl
  | cons n name ih =>
    cases text with
    | nil => cases h
    | cons x text =>
      rw [afterName?] at h
      rw [List.cons_append, afterName?]
      split_ifs at h ⊢
      exact ih h

theorem afterName?_append_of_none {name text : List Char} (hname : ∀ n ∈ name, IsSmall n)
    (h : afterName? name text = none) (more : List Char) :
    afterName? name (text ++ '\n' :: more) = none := by
  induction name generalizing text with
  | nil => cases h
  | cons n name ih =>
    rw [List.forall_mem_cons] at hname
    cases text with
    | nil =>
      have hbreak : isWord '\n' = false := by decide
      rw [List.nil_append, afterName?, if_neg]
      intro hfold
      rw [hname.1.foldCase_eq] at hfold
      rw [isWord_of_foldCase hname.1 hfold] at hbreak
      cases hbreak
    | cons x text =>
      rw [afterName?] at h
      rw [List.cons_append, afterName?]
      split_ifs at h ⊢ with hx
      · exact ih hname.2 h
      · rfl

theorem afterCommand?_append {name text inner : List Char}
    (h : afterCommand? name text = some inner) (more : List Char) :
    afterCommand? name (text ++ more) = some (inner ++ more) := by
  obtain ⟨rest, hname, hopen⟩ := Option.bind_eq_some_iff.mp h
  rw [afterCommand?, afterName?_append hname, Option.bind_some, List.dropWhile_append,
    afterParen?_eq_some hopen]
  rfl

theorem not_mem_spelled {name spelled : List Char} (hname : ∀ n ∈ name, IsSmall n)
    (h : spelled.map foldCase = name.map foldCase) : '(' ∉ spelled := by
  intro hmem
  have hparen : isWord '(' = false := by decide
  rw [isWord_of_mem_spelled hname h '(' hmem] at hparen
  cases hparen

theorem not_mem_blanks {blanks : List Char} (h : ∀ x ∈ blanks, isBlank x) : '(' ∉ blanks := by
  intro hmem
  have hparen : isBlank '(' = false := by decide
  rw [h '(' hmem] at hparen
  cases hparen

theorem not_mem_of_completed {name text more : List Char} (hname : ∀ n ∈ name, IsSmall n)
    (h : afterCommand? name text = none)
    (hmore : (afterCommand? name (text ++ '\n' :: more)).isSome) : '(' ∉ text := by
  cases hread : afterName? name text with
  | none =>
    rw [afterCommand?, afterName?_append_of_none hname hread] at hmore
    cases hmore
  | some rest =>
    obtain ⟨spelled, hspelled, rfl⟩ := afterName?_eq_some hread
    rw [afterCommand?, hread, Option.bind_some] at h
    rw [afterCommand?, afterName?_append hread, Option.bind_some, List.dropWhile_append] at hmore
    have hblanks : rest.dropWhile isBlank = [] := by
      by_contra hne
      rw [if_neg (by simpa using hne), afterParen?_append hne, h] at hmore
      cases hmore
    rw [List.mem_append, not_or]
    exact ⟨not_mem_spelled hname hspelled,
      not_mem_blanks fun x hx => List.dropWhile_eq_nil_iff.mp hblanks x hx⟩

/-! ## What is read behind a parenthesis -/

/-- Whether more text keeps what is read behind a parenthesis, and completes only texts that have
none of the characters that all content needs. -/
structure Content.Keeps (content : Content) (completes : Char → Bool) (more : List Char) :
    Prop where
  kept : ∀ text a after, content.read? text = some (a, after) →
    content.read? (text ++ more) = some (a, after ++ more)
  completed : ∀ text, (content.read? text).isSome → ∃ x ∈ text, completes x
  incomplete : ∀ text, content.read? text = none → (content.read? (text ++ more)).isSome →
    ∀ x ∈ text, ¬ completes x

theorem keeps_arguments (more : List Char) : arguments.Keeps (· == ')') more := by
  refine ⟨?_, ?_, ?_⟩
  · intro text a after h
    rw [arguments_read?_eq_some_iff] at h ⊢
    refine ⟨?_, h.2⟩
    rw [h.1, List.append_assoc, List.cons_append]
  · intro text h
    obtain ⟨⟨content, after⟩, hread⟩ := Option.isSome_iff_exists.mp h
    rw [(arguments_read?_eq_some_iff.mp hread).1]
    exact ⟨')', by simp, rfl⟩
  · intro text h _ x hx hclose
    obtain rfl : x = ')' := beq_iff_eq.mp hclose
    obtain ⟨content, after, rfl, hcontent⟩ := List.eq_append_cons_of_mem hx
    have hread : arguments.read? (content ++ ')' :: after) = some (content, after) :=
      arguments_read?_eq_some_iff.mpr ⟨rfl, fun y hy heq => hcontent (heq ▸ hy)⟩
    rw [h] at hread
    cases hread

theorem keeps_packageName (more : List Char) : packageName.Keeps isWord ('\n' :: more) := by
  have hbreak : ¬ isWord '\n' := by decide
  refine ⟨?_, ?_, ?_⟩
  · intro text name after h
    rw [packageName_read?_eq_some_iff] at h ⊢
    obtain ⟨blanks, rfl, hblanks, hne, hname, hafter⟩ := h
    refine ⟨blanks, by simp only [List.append_assoc], hblanks, hne, hname, fun x hx => ?_⟩
    cases after with
    | nil =>
      obtain rfl : '\n' = x := Option.some.inj hx
      exact hbreak
    | cons y ys => exact hafter x hx
  · intro text h
    obtain ⟨⟨name, after⟩, hread⟩ := Option.isSome_iff_exists.mp h
    obtain ⟨blanks, rfl, -, hne, hname, -⟩ := packageName_read?_eq_some_iff.mp hread
    obtain ⟨x, xs, rfl⟩ := List.exists_cons_of_ne_nil hne
    exact ⟨x, by simp, hname x List.mem_cons_self⟩
  · intro text h hmore x hx hword
    obtain ⟨⟨name, after⟩, hread⟩ := Option.isSome_iff_exists.mp hmore
    obtain ⟨blanks, htext, hblanks, hne, hname, hafter⟩ := packageName_read?_eq_some_iff.mp hread
    have hname_part : ∀ rest, text = blanks ++ (name ++ rest) →
        ¬ ∀ x ∈ rest.head?, ¬ isWord x := by
      intro rest htext hrest
      rw [packageName_read?_eq_some_iff.mpr ⟨blanks, htext, hblanks, hne, hname, hrest⟩] at h
      cases h
    rcases List.append_eq_append_iff.mp htext with ⟨others, hall, -⟩ | ⟨start, hstart, hrest⟩
    · -- The text ends among the blanks.
      have hblank := hblanks x (hall ▸ List.mem_append_left others hx)
      rw [not_isWord_of_isBlank hblank] at hword
      cases hword
    · -- The name stands before the new line, so it could be read already.
      rcases List.append_eq_append_iff.mp hrest with ⟨rest, rfl, rfl⟩ | ⟨others, rfl, hothers⟩
      · refine hname_part rest hstart fun x hx => ?_
        cases rest with
        | nil => cases hx
        | cons y ys => exact hafter x hx
      · cases others with
        | nil =>
          refine hname_part [] ?_ fun x hx => by cases hx
          simpa using hstart
        | cons y ys =>
          obtain ⟨rfl, -⟩ := List.cons.inj hothers
          exact hbreak (hname '\n' (by simp))

/-! ## Declarations in longer texts -/

variable {name : String} {content : Content} {completes : Char → Bool} {more rest : List Char}
  {before : Option Char}

/-- Whether the text has something behind a parenthesis that completes content. -/
def Completed (completes : Char → Bool) (text : List Char) : Prop :=
  ∃ front inner, text = front ++ '(' :: inner ∧ ∃ x ∈ inner, completes x

theorem suffix_of_first {first front inner other : List Char} {x : Char} (hfirst : x ∉ first)
    (h : first ++ x :: inner = front ++ x :: other) : other <:+ inner := by
  rcases List.append_eq_append_iff.mp h with ⟨between, rfl, hrest⟩ | ⟨between, rfl, hrest⟩
  · cases between with
    | nil =>
      obtain ⟨-, rfl⟩ := List.cons.inj hrest
      exact List.suffix_refl _
    | cons y ys =>
      obtain ⟨-, rfl⟩ := List.cons.inj hrest
      exact (List.suffix_cons x other).trans (List.suffix_append ys _)
  · cases between with
    | nil =>
      obtain ⟨-, rfl⟩ := List.cons.inj hrest
      exact List.suffix_refl _
    | cons y ys =>
      obtain ⟨rfl, -⟩ := List.cons.inj hrest
      exact absurd (by simp) hfirst

theorem completed_of_read? (h : content.Keeps completes more)
    (hread : ((declaration name content).read? before rest).isSome) : Completed completes rest := by
  obtain ⟨hit, hread⟩ := Option.isSome_iff_exists.mp hread
  simp only [declaration] at hread
  split_ifs at hread
  obtain ⟨inner, hcommand, hcontent⟩ := Option.bind_eq_some_iff.mp hread
  obtain ⟨spelled, blanks, -, -, rfl⟩ := afterCommand?_eq_some hcommand
  exact ⟨spelled ++ blanks, inner, by simp, h.completed inner (by rw [hcontent]; rfl)⟩

/-- **Behind a declaration that more lines complete, nothing is complete yet.** -/
theorem not_completed_of_read? (hname : IsCommand name.toList)
    (h : content.Keeps completes ('\n' :: more))
    (hnone : (declaration name content).read? before rest = none)
    (hread : ((declaration name content).read? before (rest ++ '\n' :: more)).isSome) :
    ¬ Completed completes rest := by
  rintro ⟨front, inner, hsplit, x, hx, hcompletes⟩
  simp only [declaration] at hnone hread
  split_ifs at hnone hread with hword
  · cases hread
  · cases hcommand : afterCommand? name.toList rest with
    | none =>
      have hmore : (afterCommand? name.toList (rest ++ '\n' :: more)).isSome :=
        Option.isSome_of_isSome_bind hread
      refine not_mem_of_completed hname.small hcommand hmore ?_
      rw [hsplit]
      simp
    | some inner' =>
      rw [hcommand, Option.bind_some] at hnone
      rw [afterCommand?_append hcommand, Option.bind_some] at hread
      obtain ⟨spelled, blanks, hspelled, hblanks, hrest⟩ := afterCommand?_eq_some hcommand
      have hfirst : '(' ∉ spelled ++ blanks := by
        rw [List.mem_append, not_or]
        exact ⟨not_mem_spelled hname.small hspelled, not_mem_blanks hblanks⟩
      rw [← List.append_assoc] at hrest
      have hsuffix := suffix_of_first hfirst (hrest.symm.trans hsplit)
      exact h.incomplete inner' hnone hread x (hsuffix.mem hx) hcompletes

/-- **More lines keep the declarations that are read.** -/
theorem keeps_declaration (hname : IsCommand name.toList)
    (h : content.Keeps completes ('\n' :: more)) :
    (declaration name content).Keeps ('\n' :: more) := by
  refine ⟨?_, ?_⟩
  · intro before rest a after hread
    simp only [declaration] at hread ⊢
    split_ifs at hread ⊢
    obtain ⟨inner, hcommand, hcontent⟩ := Option.bind_eq_some_iff.mp hread
    rw [afterCommand?_append hcommand, Option.bind_some]
    exact h.kept inner a after hcontent
  · intro before rest hnone hread tail before' htail
    have hincomplete := not_completed_of_read? hname h hnone hread
    by_contra hne
    obtain ⟨front, inner, rfl, hcompletes⟩ :=
      completed_of_read? h (Option.isSome_iff_ne_none.mpr hne)
    obtain ⟨lead, rfl⟩ := htail
    exact hincomplete ⟨lead ++ front, inner, by rw [List.append_assoc], hcompletes⟩

/-! ## Names and dependencies -/

/-- **The names of a form come first among those of a longer text.** -/
theorem names_prefix_append (form : Form) (text more : List Char) :
    form.names text <+: form.names (text ++ '\n' :: more) := by
  have hlists : ∀ (name : String) (namesIn : List Char → List String), IsCommand name.toList →
      ((listDeclaration name).captures text).flatMap namesIn <+:
        ((listDeclaration name).captures (text ++ '\n' :: more)).flatMap namesIn := by
    intro name namesIn hname
    have hscan : (declaration name arguments).scanAll text <+:
        (declaration name arguments).scanAll (text ++ '\n' :: more) :=
      Text.Reader.scan_prefix_append (keeps_declaration hname (keeps_arguments _)) 0
    obtain ⟨others, hothers⟩ := hscan
    rw [captures_listDeclaration hname, captures_listDeclaration hname, ← hothers,
      List.flatMap_append]
    exact List.prefix_append _ _
  cases form with
  | package =>
    rw [Form.names, packages, packages, captures_packageDeclaration, captures_packageDeclaration]
    exact (Text.Reader.scan_prefix_append
      (keeps_declaration (by decide +kernel) (keeps_packageName more)) 0).map _
  | module => exact hlists "pkg_check_modules" modulesIn (by decide +kernel)
  | library => exact hlists "target_link_libraries" librariesIn (by decide +kernel)

/-- **More declarations take no dependency away.** The names that each form of declarations yields
stay the first ones of the form, and each dependency is still one, as available as before and still
required if it was, also where the text ends within a declaration that goes on in what is added. -/
theorem dependencies_append (allowlist : Allowlist) (text more : List Char) :
    (∀ form : Form, form.names text <+: form.names (text ++ '\n' :: more)) ∧
      ∀ d ∈ dependencies allowlist text, ∃ e ∈ dependencies allowlist (text ++ '\n' :: more),
        e.name = d.name ∧ e.availability = d.availability ∧
          (d.required = true → e.required = true) := by
  refine ⟨fun form => names_prefix_append form text more, fun d hd => ?_⟩
  obtain ⟨x, hx, rfl⟩ := List.mem_map.mp hd
  have hname : x.1 ∈ (declarations text).map (·.1) :=
    (mem_map_firstOfName.mp (List.mem_map_of_mem hx)).1
  obtain ⟨form, hform⟩ := mem_map_fst_declarations.mp hname
  have hlater : x.1 ∈ (declarations (text ++ '\n' :: more)).map (·.1) :=
    mem_map_fst_declarations.mpr ⟨form, (names_prefix_append form text more).mem hform⟩
  obtain ⟨y, hy, heq⟩ := List.mem_map.mp
    (mem_map_firstOfName.mpr ⟨hlater, List.not_mem_nil⟩)
  refine ⟨⟨y.1, y.2, allowlist.availability y.1⟩, List.mem_map_of_mem hy, heq, ?_,
    fun hrequired => ?_⟩
  · rw [heq]
  · obtain ⟨form, hform, hmem⟩ := (snd_of_mem_firstOfName hx).mp hrequired
    exact (snd_of_mem_firstOfName hy).mpr
      ⟨form, hform, heq ▸ (names_prefix_append form text more).mem hmem⟩

/-- A build file that ends within a declaration. -/
def openDeclaration : List Char := "find_package(A)\npkg_check_modules(B b".toList

/-- The open declaration goes on in the line that is added and takes its text as arguments. The
dependency in front of it stays. -/
theorem dependencies_append_sample :
    ⟨"A", true, .unknown⟩ ∈ dependencies .builtin openDeclaration ∧
      ∃ e ∈ dependencies .builtin (openDeclaration ++ '\n' :: "find_package(C) d)".toList),
        e.name = "A" ∧ e.availability = .unknown ∧ e.required = true := by
  have hmem : ⟨"A", true, .unknown⟩ ∈ dependencies .builtin openDeclaration := by decide +kernel
  obtain ⟨-, hkeep⟩ := dependencies_append .builtin openDeclaration "find_package(C) d)".toList
  obtain ⟨e, he, hname, havailability, hrequired⟩ := hkeep _ hmem
  exact ⟨hmem, e, he, hname, havailability, hrequired rfl⟩

end Readiness.BuildFile
