import Mathlib
import Readiness.Settings.Effective

/-!
# Settings that are asked for

The values that a run takes from the command line, from its settings file or from the defaults, and
the failures of those that name nothing. They are looked for one after another, and the run stops
with the first one.

* `Choices.formatName`, `Choices.matchModeName`, `Choices.exclusions`, `Choices.destination` : the
  values.
* `Finds` : steps that look for failures in their order.
* `finds_settings` : the failures of the settings, and the settings if there are none.
-/

namespace Readiness

/-! ## Names of formats -/

theorem Format.named?_eq_some_iff {value : String} {format : Format} :
    Format.named? value = some format ↔ format.label = value := by
  constructor
  · intro h
    unfold named? at h
    split at h
    · cases h
      rfl
    · cases h
      rfl
    · cases h
  · rintro rfl
    cases format <;> rfl

theorem Format.named?_eq_none_iff {value : String} :
    Format.named? value = none ↔ value ≠ "human" ∧ value ≠ "json" := by
  rw [Option.eq_none_iff_forall_ne_some]
  simp only [ne_eq, named?_eq_some_iff]
  constructor
  · intro h
    exact ⟨fun hvalue => h .human hvalue.symm, fun hvalue => h .json hvalue.symm⟩
  · rintro ⟨hhuman, hjson⟩ format hlabel
    cases format with
    | human => exact hhuman hlabel.symm
    | json => exact hjson hlabel.symm

/-! ## What a run is asked for -/

/-- The failure of a name that names nothing. -/
def choiceFaults {α : Type} (named? : String → Option α) (fail : String → Failure)
    (name : String) : List Failure :=
  if (named? name).isSome then [] else [fail name]

namespace Choices
variable (d : Disk) (c : Choices)

/-- The path of the tree to analyse. -/
def start : String := c.root.getD "."

/-- The settings file that applies. -/
def file : FileSettings := (Settings.load? d (Settings.folder d c.start)).getD .empty

/-- The name of the format: from the command line, else from the file, else the default. -/
def formatName : String := (c.format <|> (c.file d).format).getD Format.human.label

/-- The name of the match mode, chosen in the same way. -/
def matchModeName : String := (c.matchMode <|> (c.file d).matchMode).getD MatchMode.substring.label

/-- The exclusions: those of the command line if there are any, else those of the file. -/
def exclusions : List String := if c.exclude.isEmpty then (c.file d).exclude.getD [] else c.exclude

/-- The path that the report is to be written to, if any. -/
def destination : Option String :=
  c.output <|> (c.file d).output.map (Path.join (Settings.folder d c.start))

def formatFaults : List Failure := choiceFaults Format.named? .badFormat (c.formatName d)

def matchModeFaults : List Failure :=
  choiceFaults MatchMode.named? .badMatchMode (c.matchModeName d)

end Choices

/-! ## Steps that find failures -/

/-- Whether a step looks for the failures of a list: it stops with the first one, and if there are
none it has a result of the given kind. -/
inductive Finds {α : Type} (Good : α → Prop) : List Failure → Except Failure α → Prop where
  | stop (f : Failure) (fs : List Failure) : Finds Good (f :: fs) (.error f)
  | ok {a : α} (h : Good a) : Finds Good [] (.ok a)

namespace Finds
variable {α β : Type} {P : α → Prop} {Q : β → Prop} {f : Failure} {fs gs : List Failure}
  {x : Except Failure α}

theorem eq_error (h : Finds P (f :: fs) x) : x = .error f := by
  cases h
  rfl

theorem exists_ok (h : Finds P [] x) : ∃ a, P a ∧ x = .ok a := by
  cases h with
  | ok ha => exact ⟨_, ha, rfl⟩

theorem eq_error_iff (h : Finds P fs x) : x = .error f ↔ fs.head? = some f := by
  cases h with
  | stop g gs => rw [List.head?_cons, Except.error.injEq, Option.some.injEq]
  | ok ha => simp only [List.head?_nil, reduceCtorEq]

theorem bind {k : α → Except Failure β} (hx : Finds P fs x) (hk : ∀ a, P a → Finds Q gs (k a)) :
    Finds Q (fs ++ gs) (x >>= k) := by
  cases hx with
  | stop f fs => exact .stop f (fs ++ gs)
  | ok ha => exact hk _ ha

theorem map {g : α → β} (hx : Finds P fs x) (hg : ∀ a, P a → Q (g a)) :
    Finds Q fs (x >>= fun a => .ok (g a)) := by
  rw [← List.append_nil fs]
  exact hx.bind fun a ha => .ok (hg a ha)

end Finds

/-! ## The steps of the settings -/

section
variable (d : Disk) (c : Choices)

theorem finds_choice {α : Type} {named? : String → Option α} {fail : String → Failure}
    {choose : Option String → Except Failure α} {default : String}
    (hnone : ∃ a, named? default = some a ∧ choose none = .ok a)
    (hok : ∀ value a, named? value = some a → choose (some value) = .ok a)
    (herror : ∀ value, named? value = none → choose (some value) = .error (fail value))
    (choice : Option String) :
    Finds (fun a => named? (choice.getD default) = some a)
      (choiceFaults named? fail (choice.getD default)) (choose choice) := by
  cases choice with
  | none =>
    obtain ⟨a, hdefault, hchoose⟩ := hnone
    rw [Option.getD_none, choiceFaults, hdefault, hchoose]
    exact .ok rfl
  | some value =>
    rw [Option.getD_some, choiceFaults]
    cases hnamed : named? value with
    | none =>
      rw [herror value hnamed]
      exact .stop _ _
    | some a =>
      rw [hok value a hnamed]
      exact .ok rfl

theorem finds_format : Finds (fun format => Format.named? (c.formatName d) = some format)
    (c.formatFaults d) (Settings.chooseFormat (c.format <|> (c.file d).format)) :=
  @finds_choice Format Format.named? .badFormat Settings.chooseFormat Format.human.label
    ⟨.human, rfl, rfl⟩ (fun value format h => by rw [Settings.chooseFormat, h])
    (fun value h => by rw [Settings.chooseFormat, h]) _

theorem finds_matchMode : Finds (fun mode => MatchMode.named? (c.matchModeName d) = some mode)
    (c.matchModeFaults d) (Settings.chooseMatchMode (c.matchMode <|> (c.file d).matchMode)) :=
  @finds_choice MatchMode MatchMode.named? .badMatchMode Settings.chooseMatchMode
    MatchMode.substring.label ⟨.substring, rfl, rfl⟩
    (fun value mode h => by rw [Settings.chooseMatchMode, h])
    (fun value h => by rw [Settings.chooseMatchMode, h]) _

/-- The settings of a run whose format and match mode are known. -/
def Choices.settings (format : Format) (matchMode : MatchMode) : Settings where
  root := c.start
  format := format
  output := c.destination d
  exclude := c.exclusions d
  matchMode := matchMode
  source := (Settings.load? d (Settings.folder d c.start)).map fun _ => Settings.folder d c.start

theorem finds_settings : Finds
    (fun s => Format.named? (c.formatName d) = some s.format ∧
      MatchMode.named? (c.matchModeName d) = some s.matchMode ∧
      s = c.settings d s.format s.matchMode)
    (c.formatFaults d ++ c.matchModeFaults d) (Settings.resolve d c) := by
  have hresolve : Settings.resolve d c = (do
      let format ← Settings.chooseFormat (c.format <|> (c.file d).format)
      let matchMode ← Settings.chooseMatchMode (c.matchMode <|> (c.file d).matchMode)
      .ok (c.settings d format matchMode)) := rfl
  rw [hresolve]
  refine (finds_format d c).bind fun format hformat => ?_
  refine (finds_matchMode d c).map fun mode hmode => ?_
  exact ⟨hformat, hmode, rfl⟩

end

end Readiness
