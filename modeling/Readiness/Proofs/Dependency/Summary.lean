import Readiness.Dependency
import Readiness.Proofs.Pattern.Capture

/-!
# Dependencies sum up declarations

The dependencies of a build file list every declared name once. Declarations are read form by form,
those that make a dependency required before those that do not, so that the first occurrence of a
name decides rightly whether it is required, wherever its declarations stand in the text.

* `BuildFile.Form.names` : the names that the declarations of one form yield.
* `BuildFile.IsSummary` : what the list of dependencies says about the declarations.
* `BuildFile.isSummary_dependencies` : it is such a summary, for all texts and all libraries.
-/

namespace Readiness.BuildFile

/-- The forms of declarations, in the order in which they are read. -/
inductive Form where
  | package
  | module
  | library
  deriving DecidableEq

namespace Form

/-- The names that the declarations of the form yield, in the order of the text. -/
def names : Form → List Char → List String
  | .package => packages
  | .module => modules
  | .library => libraries

/-- Whether a name in a declaration of the form is required. -/
def isRequired : Form → Bool
  | .library => false
  | _ => true

/-- The forms that are read before the form. -/
def earlier : Form → List Form
  | .package => []
  | .module => [.package]
  | .library => [.package, .module]

/-- Whether the form is the first one that yields the name. -/
def Introduces (form : Form) (text : List Char) (name : String) : Prop :=
  name ∈ form.names text ∧ ∀ f ∈ form.earlier, name ∉ f.names text

end Form

/-- Whether the list sums up the declarations of a build file: each name once, with the right flag,
required ones first, and the names that one form introduces in the order of their first
occurrences. -/
structure IsSummary (allowlist : Allowlist) (text : List Char) (deps : List Dependency) : Prop where
  distinct : (deps.map (·.name)).Nodup
  name_mem : ∀ name, name ∈ deps.map (·.name) ↔ ∃ form : Form, name ∈ form.names text
  required_iff : ∀ d ∈ deps, d.required = true ↔
    ∃ form : Form, form.isRequired = true ∧ d.name ∈ form.names text
  required_first : deps.Pairwise fun d e => e.required = true → d.required = true
  ordered : ∀ form : Form, deps.Pairwise fun d e =>
    form.Introduces text d.name → form.Introduces text e.name →
      (form.names text).idxOf d.name < (form.names text).idxOf e.name
  availability_eq : ∀ d ∈ deps, d.availability = allowlist.availability d.name
  available_or_unknown : ∀ d ∈ deps, d.availability ≠ .no

/-! ## First occurrences -/

variable {seen : List String} {ds : List (String × Bool)} {d : String × Bool}

theorem firstOfName_sublist (seen : List String) (ds : List (String × Bool)) :
    (firstOfName seen ds).Sublist ds := by
  induction ds generalizing seen with
  | nil => exact .slnil
  | cons d ds ih =>
    rw [firstOfName]
    split_ifs
    · exact .cons d (ih seen)
    · exact .cons_cons d (ih (d.1 :: seen))

theorem mem_map_firstOfName {name : String} :
    name ∈ (firstOfName seen ds).map (·.1) ↔ name ∈ ds.map (·.1) ∧ name ∉ seen := by
  induction ds generalizing seen with
  | nil => simp [firstOfName]
  | cons d ds ih =>
    rw [firstOfName]
    by_cases hd : d.1 ∈ seen
    · rw [if_pos (by simpa using hd), ih, List.map_cons, List.mem_cons]
      refine ⟨fun h => ⟨.inr h.1, h.2⟩, fun h => ⟨h.1.resolve_left ?_, h.2⟩⟩
      rintro rfl
      exact h.2 hd
    · rw [if_neg (by simpa using hd), List.map_cons, List.mem_cons, ih, List.map_cons,
        List.mem_cons, List.mem_cons, not_or]
      by_cases hname : name = d.1
      · simp [hname, hd]
      · simp [hname]

theorem not_mem_of_mem_firstOfName (h : d ∈ firstOfName seen ds) : d.1 ∉ seen :=
  (mem_map_firstOfName.mp (List.mem_map_of_mem h)).2

theorem nodup_map_firstOfName (seen : List String) (ds : List (String × Bool)) :
    ((firstOfName seen ds).map (·.1)).Nodup := by
  induction ds generalizing seen with
  | nil => exact List.nodup_nil
  | cons d ds ih =>
    rw [firstOfName]
    split_ifs
    · exact ih seen
    · rw [List.map_cons, List.nodup_cons]
      exact ⟨fun h => (mem_map_firstOfName.mp h).2 List.mem_cons_self, ih (d.1 :: seen)⟩

theorem find?_of_mem_firstOfName (h : d ∈ firstOfName seen ds) :
    ds.find? (·.1 = d.1) = some d := by
  induction ds generalizing seen with
  | nil => cases h
  | cons e ds ih =>
    have hfresh := not_mem_of_mem_firstOfName h
    rw [firstOfName] at h
    by_cases he : e.1 ∈ seen
    · rw [if_pos (by simpa using he)] at h
      have hne : e.1 ≠ d.1 := fun heq => hfresh (heq ▸ he)
      rw [List.find?_cons_of_neg (by simpa using hne), ih h]
    · rw [if_neg (by simpa using he), List.mem_cons] at h
      rcases h with rfl | h
      · exact List.find?_cons_of_pos (by simp)
      · have hne : e.1 ≠ d.1 := fun heq =>
          not_mem_of_mem_firstOfName h (heq ▸ List.mem_cons_self)
        rw [List.find?_cons_of_neg (by simpa using hne), ih h]

theorem pairwise_firstOfName (seen : List String) (ds : List (String × Bool)) :
    (firstOfName seen ds).Pairwise fun d e =>
      (ds.map (·.1)).idxOf d.1 < (ds.map (·.1)).idxOf e.1 := by
  induction ds generalizing seen with
  | nil => exact .nil
  | cons d ds ih =>
    have hstep : ∀ names, d.1 ∈ names → (firstOfName names ds).Pairwise fun e f =>
        ((d :: ds).map (·.1)).idxOf e.1 < ((d :: ds).map (·.1)).idxOf f.1 := by
      intro names hd
      have hne : ∀ e ∈ firstOfName names ds, d.1 ≠ e.1 := fun e he heq =>
        not_mem_of_mem_firstOfName he (heq ▸ hd)
      refine (ih names).imp_of_mem fun {e f} he hf hef => ?_
      rw [List.map_cons, List.idxOf_cons_ne _ (hne e he), List.idxOf_cons_ne _ (hne f hf)]
      exact Nat.succ_lt_succ hef
    rw [firstOfName]
    split_ifs with hd
    · exact hstep seen (by simpa using hd)
    · refine .cons (fun e he => ?_) (hstep (d.1 :: seen) List.mem_cons_self)
      have hne : d.1 ≠ e.1 := fun heq =>
        not_mem_of_mem_firstOfName he (heq ▸ List.mem_cons_self)
      rw [List.map_cons, List.idxOf_cons_self, List.idxOf_cons_ne _ hne]
      exact Nat.succ_pos _

/-! ## Declarations -/

variable {text : List Char}

theorem map_fst_declarations (text : List Char) : (declarations text).map (·.1) =
    Form.package.names text ++ (Form.module.names text ++ Form.library.names text) := by
  simp [declarations, Form.names, Function.comp_def]

theorem mem_map_fst_declarations {name : String} :
    name ∈ (declarations text).map (·.1) ↔ ∃ form : Form, name ∈ form.names text := by
  rw [map_fst_declarations, List.mem_append, List.mem_append]
  constructor
  · rintro (h | h | h)
    exacts [⟨.package, h⟩, ⟨.module, h⟩, ⟨.library, h⟩]
  · rintro ⟨form, h⟩
    cases form with
    | package => exact .inl h
    | module => exact .inr (.inl h)
    | library => exact .inr (.inr h)

theorem mem_declarations_true {name : String} : (name, true) ∈ declarations text ↔
    ∃ form : Form, form.isRequired = true ∧ name ∈ form.names text := by
  simp only [declarations, List.mem_append, List.mem_map, Prod.mk.injEq, Bool.false_eq_true,
    and_false, exists_false, or_false, and_true, exists_eq_right]
  constructor
  · rintro (h | h)
    exacts [⟨.package, rfl, h⟩, ⟨.module, rfl, h⟩]
  · rintro ⟨form, hrequired, h⟩
    cases form with
    | package => exact .inl h
    | module => exact .inr h
    | library => cases hrequired

theorem pairwise_declarations (text : List Char) :
    (declarations text).Pairwise fun d e => e.2 = true → d.2 = true := by
  rw [declarations, List.pairwise_append]
  refine ⟨?_, ?_, ?_⟩
  · refine List.pairwise_of_forall_mem_list fun d hd _ _ _ => ?_
    simp only [List.mem_append, List.mem_map] at hd
    rcases hd with ⟨_, _, rfl⟩ | ⟨_, _, rfl⟩ <;> rfl
  · refine List.pairwise_of_forall_mem_list fun _ _ e he h => ?_
    obtain ⟨_, _, rfl⟩ := List.mem_map.mp he
    cases h
  · intro _ _ e he h
    obtain ⟨_, _, rfl⟩ := List.mem_map.mp he
    cases h

/-- **The first declaration of a name decides rightly:** it is a required one if there is any. -/
theorem snd_of_mem_firstOfName (h : d ∈ firstOfName [] (declarations text)) :
    d.2 = true ↔ ∃ form : Form, form.isRequired = true ∧ d.1 ∈ form.names text := by
  rw [← mem_declarations_true]
  constructor
  · intro hd
    exact hd ▸ (firstOfName_sublist _ _).mem h
  · intro hmem
    obtain ⟨-, before, after, hsplit, hbefore⟩ :=
      List.find?_eq_some_iff_append.mp (find?_of_mem_firstOfName h)
    have hpairs := pairwise_declarations text
    rw [hsplit] at hmem hpairs
    rcases List.mem_append.mp hmem with hmem | hmem
    · simpa using hbefore _ hmem
    · rcases List.mem_cons.mp hmem with heq | hmem
      · exact (congrArg Prod.snd heq).symm
      · exact (List.pairwise_cons.mp (List.pairwise_append.mp hpairs).2.1).1 _ hmem rfl

theorem idxOf_declarations {form : Form} {name : String} (h : form.Introduces text name) :
    ((declarations text).map (·.1)).idxOf name =
      (form.earlier.flatMap (·.names text)).length + (form.names text).idxOf name := by
  obtain ⟨hmem, hearlier⟩ := h
  rw [map_fst_declarations]
  cases form with
  | package =>
    rw [List.idxOf_append_of_mem hmem]
    simp [Form.earlier]
  | module =>
    have hpackage := hearlier .package (by simp [Form.earlier])
    rw [List.idxOf_append_of_notMem hpackage, List.idxOf_append_of_mem hmem]
    simp [Form.earlier]
  | library =>
    have hpackage := hearlier .package (by simp [Form.earlier])
    have hmodule := hearlier .module (by simp [Form.earlier])
    rw [List.idxOf_append_of_notMem hpackage, List.idxOf_append_of_notMem hmodule]
    simp [Form.earlier, Nat.add_assoc]

/-! ## The order of the text -/

theorem inOrder_ofList {pieces : List (List Char)} (h : Text.InOrder pieces text) :
    Text.InOrder ((pieces.map String.ofList).map String.toList) text := by
  simpa [List.map_map, Function.comp_def] using h

theorem inOrder_filterMap {name? : List Char → Option String}
    (h : ∀ argument, ∀ name ∈ name? argument, name.toList <:+: argument)
    {arguments : List (List Char)} (hargs : Text.InOrder arguments text) :
    Text.InOrder ((arguments.filterMap name?).map String.toList) text := by
  rw [List.map_filterMap]
  refine hargs.filterMap fun argument part hpart => ?_
  obtain ⟨name, hname, rfl⟩ := Option.map_eq_some_iff.mp hpart
  exact h argument name hname

theorem infix_of_moduleName? (argument : List Char) :
    ∀ name ∈ moduleName? argument, name.toList <:+: argument := by
  intro name hname
  rw [moduleName?] at hname
  split_ifs at hname
  · cases hname
  · cases hname
    rw [String.toList_ofList]
    exact (List.takeWhile_prefix _).isInfix

theorem infix_of_libraryName? (argument : List Char) :
    ∀ name ∈ libraryName? argument, name.toList <:+: argument := by
  fun_cases libraryName? argument with
  | case2 name =>
    rintro _ ⟨⟩
    rw [String.toList_ofList]
    exact (List.suffix_append ['-', 'l'] name).isInfix
  | case4 name =>
    rintro _ ⟨⟩
    rw [String.toList_ofList]
  | _ => rintro _ ⟨⟩

/-- **The names of a form are listed in the order of the text.** -/
theorem inOrder_names (form : Form) (text : List Char) :
    Text.InOrder ((form.names text).map String.toList) text := by
  have hlist : ∀ (namesIn : List Char → List String) (p : CapturePattern),
      (∀ arguments, Text.InOrder ((namesIn arguments).map String.toList) arguments) →
      Text.InOrder (((p.captures text).flatMap namesIn).map String.toList) text := by
    intro namesIn p h
    rw [List.map_flatMap]
    exact (p.inOrder_captures text).flatMap h
  cases form with
  | package => exact inOrder_ofList (packageDeclaration.inOrder_captures text)
  | module =>
    refine hlist modulesIn _ fun arguments => inOrder_filterMap infix_of_moduleName? ?_
    exact (Text.inOrder_words arguments).sublist
      (List.filter_sublist.trans (List.drop_sublist 1 _))
  | library =>
    refine hlist librariesIn _ fun arguments => inOrder_filterMap infix_of_libraryName? ?_
    exact (Text.inOrder_words arguments).sublist (List.drop_sublist 1 _)

/-! ## The summary -/

theorem availability_ne_no (allowlist : Allowlist) (name : String) :
    allowlist.availability name ≠ .no := by
  simp only [Allowlist.availability]
  split_ifs <;> simp

/-- **Dependencies sum up declarations.** For all texts and all libraries of the target, each
declared name is listed once, required if any declaration requires it, the required ones first, and
the names that a form introduces in the order of their first occurrences in the text. -/
theorem isSummary_dependencies (allowlist : Allowlist) (text : List Char) :
    IsSummary allowlist text (dependencies allowlist text) ∧
      ∀ form : Form, Text.InOrder ((form.names text).map String.toList) text := by
  refine ⟨⟨?_, ?_, ?_, ?_, ?_, ?_, ?_⟩, fun form => inOrder_names form text⟩
  all_goals
    simp only [dependencies, List.map_map, Function.comp_def, List.forall_mem_map,
      List.pairwise_map, implies_true]
  · exact nodup_map_firstOfName [] (declarations text)
  · intro name
    rw [← mem_map_fst_declarations, mem_map_firstOfName]
    simp
  · exact fun d hd => snd_of_mem_firstOfName hd
  · exact (pairwise_declarations text).sublist (firstOfName_sublist [] _)
  · intro form
    refine (pairwise_firstOfName [] (declarations text)).imp fun {d e} hlt hd he => ?_
    rw [idxOf_declarations hd, idxOf_declarations he] at hlt
    omega
  · exact fun d _ => availability_ne_no allowlist d.1

end Readiness.BuildFile
