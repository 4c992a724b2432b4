import Readiness.Proofs.Settings.Choices
import Readiness.Proofs.Text.Decoding

/-!
# Where settings come from

Each setting of a run is the one of the command line, else that of the settings file, else the
default, whatever the others are. The settings file is the first of the three names that exists in
its folder; if that one is no text or has no valid settings, none are taken from a file, and no
other file is looked at. Values that are not taken do not matter, valid or not.

* `Settings.Sets` : what the text of a settings file sets.
* `Settings.Configures`, `Settings.configures_iff` : the settings from the file of a folder.
* `Settings.IsFault` : what is wrong with the settings of a run.
* `Settings.Takes` : the settings of a run with which nothing is wrong.
* `Settings.resolve_takes` : the settings or the failure of every run.
-/

namespace Readiness

namespace Settings

variable {d : Disk} {folder name : String} {text : List Char} {config : Option FileSettings}
  {c : Choices} {f : Failure} {s t : Settings}

/-! ## The settings file of a folder -/

/-- Whether the settings file of that name exists in the folder and none with a name before does. -/
def IsFirst (d : Disk) (folder name : String) : Prop :=
  ∃ before after, fileNames = before ++ name :: after ∧ d.exists (Path.join folder name) ∧
    ∀ other ∈ before, ¬ d.exists (Path.join folder other)

/-- What the text of a settings file sets, if it is valid. The name of the file tells in which of
the two languages it is written. -/
inductive Sets : (name : String) → (text : List Char) → Option FileSettings → Prop where
  | toml (text : List Char) : Sets "portdiag.toml" text (FileSettings.ofToml? text)
  | yaml (text : List Char) : Sets "portdiag.yaml" text (FileSettings.ofYaml? text)
  | yml (text : List Char) : Sets "portdiag.yml" text (FileSettings.ofYaml? text)

/-- What is taken from the settings file of a folder. The first file that exists decides. -/
inductive Configures (d : Disk) (folder : String) : Option FileSettings → Prop where
  | absent (h : ∀ name ∈ fileNames, ¬ d.exists (Path.join folder name)) : Configures d folder none
  | unreadable {name : String} (h : IsFirst d folder name)
    (hread : ∀ text, d.read? (Path.join folder name) ≠ some (Utf8.encode text)) :
    Configures d folder none
  | malformed {name : String} {text : List Char} (h : IsFirst d folder name)
    (hread : d.read? (Path.join folder name) = some (Utf8.encode text))
    (hsets : Sets name text none) : Configures d folder none
  | valid {name : String} {text : List Char} {file : FileSettings} (h : IsFirst d folder name)
    (hread : d.read? (Path.join folder name) = some (Utf8.encode text))
    (hsets : Sets name text (some file)) : Configures d folder (some file)

theorem sets_iff (h : name ∈ fileNames) : Sets name text config ↔ read? name text = config := by
  have htoml : read? "portdiag.toml" text = FileSettings.ofToml? text :=
    if_pos (by decide +kernel)
  have hyaml : read? "portdiag.yaml" text = FileSettings.ofYaml? text :=
    if_neg (by decide +kernel)
  have hyml : read? "portdiag.yml" text = FileSettings.ofYaml? text :=
    if_neg (by decide +kernel)
  constructor
  · intro hsets
    cases hsets with
    | toml => exact htoml
    | yaml => exact hyaml
    | yml => exact hyml
  · rintro rfl
    simp only [fileNames, List.mem_cons, List.not_mem_nil, or_false] at h
    rcases h with rfl | rfl | rfl
    · rw [htoml]
      exact .toml text
    · rw [hyaml]
      exact .yaml text
    · rw [hyml]
      exact .yml text

theorem IsFirst.mem_fileNames (h : IsFirst d folder name) : name ∈ fileNames := by
  obtain ⟨before, after, heq, -⟩ := h
  rw [heq]
  exact List.mem_append_right before List.mem_cons_self

theorem isFirst_iff : IsFirst d folder name ↔
    fileNames.find? (fun name => d.exists (Path.join folder name)) = some name := by
  rw [List.find?_eq_some_iff_append, IsFirst]
  constructor
  · rintro ⟨before, after, heq, hname, hbefore⟩
    exact ⟨hname, before, after, heq, fun other h => by simpa using hbefore other h⟩
  · rintro ⟨hname, before, after, heq, hbefore⟩
    exact ⟨before, after, heq, hname, fun other h => by simpa using hbefore other h⟩

theorem absent_iff : (∀ name ∈ fileNames, ¬ d.exists (Path.join folder name)) ↔
    fileNames.find? (fun name => d.exists (Path.join folder name)) = none :=
  List.find?_eq_none.symm

/-- The text of a file that has one. -/
def text? (d : Disk) (path : String) : Option (List Char) := (d.read? path).bind Utf8.decode?

theorem text?_eq_some_iff {path : String} :
    text? d path = some text ↔ d.read? path = some (Utf8.encode text) := by
  rw [text?, Option.bind_eq_some_iff]
  simp only [Utf8.decode?_eq_some_iff, exists_eq_right]

theorem text?_eq_none_iff {path : String} :
    text? d path = none ↔ ∀ text, d.read? path ≠ some (Utf8.encode text) := by
  rw [Option.eq_none_iff_forall_ne_some]
  simp only [ne_eq, text?_eq_some_iff]

theorem load?_eq (d : Disk) (folder : String) : load? d folder =
    (fileNames.find? fun name => d.exists (Path.join folder name)).bind fun name =>
      (text? d (Path.join folder name)).bind (read? name) := by
  simp only [text?, Option.bind_assoc]
  rfl

/-- **The first settings file decides**, whatever state it is in. -/
theorem configures_iff : Configures d folder config ↔ load? d folder = config := by
  rw [load?_eq]
  constructor
  · intro h
    cases h with
    | absent h => rw [absent_iff.mp h, Option.bind_none]
    | unreadable h hread =>
      rw [isFirst_iff.mp h, Option.bind_some, text?_eq_none_iff.mpr hread, Option.bind_none]
    | malformed h hread hsets | valid h hread hsets =>
      rw [isFirst_iff.mp h, Option.bind_some, text?_eq_some_iff.mpr hread, Option.bind_some]
      exact (sets_iff h.mem_fileNames).mp hsets
  · rintro rfl
    cases hfirst : fileNames.find? fun name => d.exists (Path.join folder name) with
    | none => exact .absent (absent_iff.mpr hfirst)
    | some name =>
      rw [Option.bind_some]
      have hname := isFirst_iff.mpr hfirst
      cases htext : text? d (Path.join folder name) with
      | none => exact .unreadable hname (text?_eq_none_iff.mp htext)
      | some text =>
        rw [Option.bind_some]
        have hread := text?_eq_some_iff.mp htext
        cases hparse : read? name text with
        | none => exact .malformed hname hread ((sets_iff hname.mem_fileNames).mpr hparse)
        | some file => exact .valid hname hread ((sets_iff hname.mem_fileNames).mpr hparse)

/-! ## The settings of a run -/

/-- A value from the command line, else from the settings file, else the default. -/
def selected {α : Type} : (choice setting : Option α) → (default : α) → α
  | some value, _, _ => value
  | none, some value, _ => value
  | none, none, default => default

section
variable (c : Choices) (config : Option FileSettings)

def selectedFormat : String := selected c.format (config.bind (·.format)) "human"

def selectedMatchMode : String := selected c.matchMode (config.bind (·.matchMode)) "substring"

/-- What is wrong with the settings of a run. The format comes first. -/
inductive IsFault : Failure → Prop where
  | format (h : selectedFormat c config ≠ "human" ∧ selectedFormat c config ≠ "json") :
    IsFault (.badFormat (selectedFormat c config))
  | matchMode (hformat : selectedFormat c config = "human" ∨ selectedFormat c config = "json")
    (h : MatchMode.named? (selectedMatchMode c config) = none) :
    IsFault (.badMatchMode (selectedMatchMode c config))

/-- Whether the settings are those of a run, each taken by itself. -/
structure Takes (folder : String) (s : Settings) : Prop where
  root : s.root = selected c.root none "."
  format : s.format.label = selectedFormat c config
  matchMode : MatchMode.named? (selectedMatchMode c config) = some s.matchMode
  /-- A path of the command line is kept as it is. -/
  output_given : ∀ path, c.output = some path → s.output = some path
  /-- A path of the file is seen from its folder. -/
  output_set : c.output = none → s.output = (config.bind (·.output)).map (Path.join folder)
  /-- Exclusions of the command line replace all those of the file. -/
  exclude_given : c.exclude ≠ [] → s.exclude = c.exclude
  exclude_set : c.exclude = [] → s.exclude = selected none (config.bind (·.exclude)) []
  source : s.source = config.map fun _ => folder

end

theorem Takes.unique (hs : Takes c config folder s) (ht : Takes c config folder t) : s = t := by
  have hroot := hs.root.trans ht.root.symm
  have hformat : s.format = t.format :=
    Option.some.inj ((Format.named?_eq_some_iff.mpr hs.format).symm.trans
      (Format.named?_eq_some_iff.mpr ht.format))
  have hmode := Option.some.inj (hs.matchMode.symm.trans ht.matchMode)
  have houtput : s.output = t.output := by
    cases houtput : c.output with
    | some path => rw [hs.output_given path houtput, ht.output_given path houtput]
    | none => rw [hs.output_set houtput, ht.output_set houtput]
  have hexclude : s.exclude = t.exclude := by
    by_cases hexclude : c.exclude = []
    · rw [hs.exclude_set hexclude, ht.exclude_set hexclude]
    · rw [hs.exclude_given hexclude, ht.exclude_given hexclude]
  have hsource := hs.source.trans ht.source.symm
  cases s
  cases t
  simp_all

theorem selected_eq {α : Type} (choice setting : Option α) (default : α) :
    selected choice setting default = (choice <|> setting).getD default := by
  cases choice with
  | some value => rfl
  | none =>
    cases setting with
    | some value => rfl
    | none => rfl

theorem selected_none {α : Type} (setting : Option α) (default : α) :
    selected none setting default = setting.getD default := by
  cases setting <;> rfl

theorem setting_getD {α : Type} (setting : FileSettings → Option α) (h : setting .empty = none)
    (config : Option FileSettings) : setting (config.getD .empty) = config.bind setting := by
  cases config with
  | none => exact h
  | some file => rfl

section
variable (d : Disk) (c : Choices)

theorem start_eq (c : Choices) : c.start = selected c.root none "." := by
  rw [selected_eq, Choices.start]
  cases c.root <;> rfl

theorem formatName_eq :
    c.formatName d = selectedFormat c (load? d (Settings.folder d c.start)) := by
  rw [selectedFormat, selected_eq, ← setting_getD (·.format) rfl]
  rfl

theorem matchModeName_eq :
    c.matchModeName d = selectedMatchMode c (load? d (Settings.folder d c.start)) := by
  rw [selectedMatchMode, selected_eq, ← setting_getD (·.matchMode) rfl]
  rfl

theorem takes_settings {format : Format} {mode : MatchMode}
    (hformat : Format.named? (c.formatName d) = some format)
    (hmode : MatchMode.named? (c.matchModeName d) = some mode) :
    Takes c (load? d (Settings.folder d c.start)) (Settings.folder d c.start)
      (c.settings d format mode) where
  root := start_eq c
  format := by
    rw [← formatName_eq]
    exact Format.named?_eq_some_iff.mp hformat
  matchMode := by
    rw [← matchModeName_eq]
    exact hmode
  output_given path h := by
    show c.destination d = _
    rw [Choices.destination, h]
    rfl
  output_set h := by
    rw [← setting_getD (·.output) rfl]
    show c.destination d = _
    rw [Choices.destination, h, Option.orElse_eq_orElse, Option.orElse_none, Choices.file]
  exclude_given h := by
    show c.exclusions d = _
    rw [Choices.exclusions, if_neg (by simpa using h)]
  exclude_set h := by
    rw [← setting_getD (·.exclude) rfl, selected_none]
    show c.exclusions d = _
    rw [Choices.exclusions, if_pos (by simpa using h), Choices.file]
  source := by rw [Choices.settings]

end

theorem isFault_iff : IsFault c config f ↔
    (choiceFaults Format.named? .badFormat (selectedFormat c config) ++
      choiceFaults MatchMode.named? .badMatchMode (selectedMatchMode c config)).head? =
        some f := by
  constructor
  · intro h
    cases h with
    | format h =>
      rw [choiceFaults, Format.named?_eq_none_iff.mpr h]
      rfl
    | matchMode hformat h =>
      have hsome : (Format.named? (selectedFormat c config)).isSome := by
        rcases hformat with hformat | hformat <;> rw [hformat] <;> rfl
      rw [choiceFaults, if_pos hsome, choiceFaults, h]
      rfl
  · intro h
    cases hformat : Format.named? (selectedFormat c config) with
    | none =>
      rw [choiceFaults, hformat] at h
      cases h
      exact .format (Format.named?_eq_none_iff.mp hformat)
    | some format =>
      rw [choiceFaults, hformat, choiceFaults] at h
      cases hmode : MatchMode.named? (selectedMatchMode c config) with
      | none =>
        rw [hmode] at h
        cases h
        refine .matchMode ?_ hmode
        rw [← Format.named?_eq_some_iff.mp hformat]
        cases format with
        | human => exact .inl rfl
        | json => exact .inr rfl
      | some mode =>
        rw [hmode] at h
        cases h

theorem resolve_eq_error_iff (d : Disk) (c : Choices) : resolve d c = .error f ↔
    IsFault c (load? d (Settings.folder d c.start)) f := by
  rw [(finds_settings d c).eq_error_iff, isFault_iff, Choices.formatFaults, Choices.matchModeFaults,
    formatName_eq, matchModeName_eq]

theorem takes_of_resolve (h : resolve d c = .ok s) :
    Takes c (load? d (Settings.folder d c.start)) (Settings.folder d c.start) s := by
  have hfinds := finds_settings d c
  rw [h] at hfinds
  generalize c.formatFaults d ++ c.matchModeFaults d = fs at hfinds
  cases hfinds with
  | ok hs =>
    obtain ⟨hformat, hmode, hs⟩ := hs
    rw [hs]
    exact takes_settings d c hformat hmode

theorem resolve_eq_ok_iff (d : Disk) (c : Choices) : resolve d c = .ok s ↔
    (∀ f, ¬ IsFault c (load? d (Settings.folder d c.start)) f) ∧
      Takes c (load? d (Settings.folder d c.start)) (Settings.folder d c.start) s := by
  constructor
  · intro h
    refine ⟨fun f hf => ?_, takes_of_resolve h⟩
    rw [← resolve_eq_error_iff, h] at hf
    cases hf
  · rintro ⟨hfault, hs⟩
    cases hresolve : resolve d c with
    | error f => exact absurd ((resolve_eq_error_iff d c).mp hresolve) (hfault f)
    | ok t => rw [(takes_of_resolve hresolve).unique hs]

theorem format_ne_of_isFault {value : String} (h : IsFault c config (.badFormat value)) :
    c.format ≠ some "human" ∧ c.format ≠ some "json" := by
  cases h with
  | format h =>
    constructor
    · intro hformat
      rw [selectedFormat, hformat] at h
      exact h.1 rfl
    · intro hformat
      rw [selectedFormat, hformat] at h
      exact h.2 rfl

theorem named?_matchMode_of_isFault {value : String} (h : IsFault c config (.badMatchMode value))
    (hname : c.matchMode = some name) : MatchMode.named? name = none := by
  cases h with
  | matchMode hformat h =>
    rw [selectedMatchMode, hname] at h
    exact h

/-- **Each setting is taken by itself**: from the command line, else from the first settings file of
the folder, else from the defaults. A run fails just if what it takes is wrong. -/
theorem resolve_takes (d : Disk) (c : Choices) : ∃ config,
    (∀ other, Configures d (Settings.folder d (selected c.root none ".")) other ↔ other = config) ∧
      (∀ f, resolve d c = .error f ↔ IsFault c config f) ∧
      (∀ s, resolve d c = .ok s ↔ (∀ f, ¬ IsFault c config f) ∧
        Takes c config (Settings.folder d (selected c.root none ".")) s) ∧
      (c.format = some "human" ∨ c.format = some "json" →
        ∀ value, resolve d c ≠ .error (.badFormat value)) ∧
      (∀ name mode, c.matchMode = some name → MatchMode.named? name = some mode →
        ∀ value, resolve d c ≠ .error (.badMatchMode value)) := by
  rw [← start_eq]
  refine ⟨load? d (Settings.folder d c.start), fun other => ?_, fun f => resolve_eq_error_iff d c,
    fun s => resolve_eq_ok_iff d c, fun hformat value hresolve => ?_,
    fun name mode hname hmode value hresolve => ?_⟩
  · rw [configures_iff, eq_comm]
  · obtain ⟨hhuman, hjson⟩ := format_ne_of_isFault ((resolve_eq_error_iff d c).mp hresolve)
    exact hformat.elim hhuman hjson
  · have hnone := named?_matchMode_of_isFault ((resolve_eq_error_iff d c).mp hresolve) hname
    rw [hmode] at hnone
    cases hnone

/-- The text of a settings file with a format that there is not. -/
def sampleText : List Char :=
  ("format = \"xml\"\noutput = \"out/r.json\"\n" ++
    "exclude = [\"*.o\"]\nmatchMode = \"word\"\n").toList

def sampleFile : FileSettings := ⟨some "xml", some "out/r.json", some ["*.o"], some "word"⟩

/-- A disk with that file and one that is not looked at. -/
def sampleDisk : Disk :=
  ⟨.folder [("lib", .folder [
      ("portdiag.toml", .file (some (Utf8.encode sampleText))),
      ("portdiag.yaml", .file (some (Utf8.encode "format: json".toList)))])], []⟩

theorem configures_sampleDisk : Configures sampleDisk "lib" (some sampleFile) := by
  have hfirst : IsFirst sampleDisk "lib" "portdiag.toml" :=
    ⟨[], ["portdiag.yaml", "portdiag.yml"], rfl, by decide +kernel, List.forall_mem_nil _⟩
  have hread : sampleDisk.read? (Path.join "lib" "portdiag.toml") =
      some (Utf8.encode sampleText) := by decide +kernel
  have hsets : Sets "portdiag.toml" sampleText (some sampleFile) := by
    have hparse : FileSettings.ofToml? sampleText = some sampleFile := by decide +kernel
    rw [← hparse]
    exact .toml sampleText
  exact .valid hfirst hread hsets

theorem resolve_takes_sample :
    resolve sampleDisk ⟨some "lib", none, none, [], none⟩ = .error (.badFormat "xml") ∧
      resolve sampleDisk ⟨some "lib", none, some "json", [], none⟩ =
        .ok ⟨"lib", .json, some "lib/out/r.json", ["*.o"], .word, some "lib"⟩ ∧
      resolve sampleDisk ⟨some "lib", some "r.json", some "json", ["*.a"], some "substring"⟩ =
        .ok ⟨"lib", .json, some "r.json", ["*.a"], .substring, some "lib"⟩ := by
  have hfolder : Settings.folder sampleDisk (selected (some "lib") none ".") = "lib" := by
    decide +kernel
  have hfile : ∀ {config}, (∀ other, Configures sampleDisk
      (Settings.folder sampleDisk (selected (some "lib") none ".")) other ↔ other = config) →
      some sampleFile = config :=
    fun hconfig => (hconfig _).mp (by rw [hfolder]; exact configures_sampleDisk)
  have hjson : ∀ {c f}, c.format = some "json" →
      MatchMode.named? (selectedMatchMode c (some sampleFile)) ≠ none →
      ¬ IsFault c (some sampleFile) f := by
    intro c f hformat hmode hfault
    cases hfault with
    | format h =>
      rw [selectedFormat, hformat] at h
      exact h.2 rfl
    | matchMode _ h => exact hmode h
  refine ⟨?_, ?_, ?_⟩
  · obtain ⟨config, hconfig, herror, -⟩ :=
      resolve_takes sampleDisk ⟨some "lib", none, none, [], none⟩
    obtain rfl := hfile hconfig
    exact (herror _).mpr (.format ⟨by decide, by decide⟩)
  · obtain ⟨config, hconfig, -, hok, -⟩ :=
      resolve_takes sampleDisk ⟨some "lib", none, some "json", [], none⟩
    obtain rfl := hfile hconfig
    rw [hfolder] at hok
    refine (hok _).mpr ⟨fun f => hjson rfl (by decide +kernel), ?_⟩
    exact {
      root := rfl
      format := rfl
      matchMode := by decide +kernel
      output_given := fun path h => nomatch h
      output_set := fun _ => by decide +kernel
      exclude_given := fun h => absurd rfl h
      exclude_set := fun _ => rfl
      source := rfl }
  · obtain ⟨config, hconfig, -, hok, -⟩ := resolve_takes sampleDisk
      ⟨some "lib", some "r.json", some "json", ["*.a"], some "substring"⟩
    obtain rfl := hfile hconfig
    rw [hfolder] at hok
    refine (hok _).mpr ⟨fun f => hjson rfl (by decide +kernel), ?_⟩
    exact {
      root := rfl
      format := rfl
      matchMode := by decide +kernel
      output_given := fun path h => h
      output_set := fun h => nomatch h
      exclude_given := fun _ => rfl
      exclude_set := fun h => nomatch h
      source := rfl }

end Settings

end Readiness
