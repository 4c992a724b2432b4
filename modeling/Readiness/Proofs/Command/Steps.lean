import Readiness.Proofs.Disk.Change
import Readiness.Proofs.Rule.Builtin
import Readiness.Proofs.Settings.Choices

/-!
# The steps of a run

A run takes its settings, reads the exclusions, finds the root, and then prints and writes the
report. What each step does when all is in order and when something is not, and the lines that a run
puts on the error stream.

* `Disk.target` : the place that writing to a path creates or replaces.
* `Choices.HasSettings`, `Choices.HasGlobs` : that the values which are asked for mean something.
* `Command.told`, `Command.notice` : the lines of the error stream.
* `Command.analyze_eq` : what a run with valid settings does.
-/

namespace Readiness

/-! ## Writing -/

theorem Node.at?_put (n : Node) (names : List String) (new : Node) :
    (n.put names new).at? names = some new := by
  induction names generalizing n with
  | nil => rfl
  | cons name names ih =>
    obtain ⟨m, es, hput⟩ : ∃ (m : Node) (es : List (String × Node)),
        n.put (name :: names) new = .folder (setEntry name (m.put names new) es) := by
      cases n
      all_goals exact ⟨_, _, rfl⟩
    rw [hput, at?_cons, child?_setEntry, if_pos rfl, Option.bind_some, ih]

/-- The place of the file that writing to a path creates or replaces. -/
def Disk.target (d : Disk) (path : String) : Except PathFault (List String) :=
  if path.isEmpty then .error .missing
  else writePlace d.root linkLimit (if Path.isAbsolute path then [] else d.here) (segments path)

theorem Disk.write_eq (d : Disk) (path : String) (content : List UInt8) :
    d.write path content = (d.target path).map fun place =>
      { d with root := d.root.put place (.file (some content)) } := by
  rw [write, target]
  split
  · rfl
  · dsimp only
    cases writePlace d.root linkLimit (if Path.isAbsolute path then [] else d.here) (segments path)
    · rfl
    · rfl

/-! ## Settings and exclusions -/

namespace Choices
variable (d : Disk) (c : Choices)

/-- Whether there are a format and a match mode of the names that are chosen. -/
structure HasSettings : Prop where
  format : c.formatName d = "human" ∨ c.formatName d = "json"
  matchMode : ∃ mode, MatchMode.named? (c.matchModeName d) = some mode

/-- Whether every exclusion is a glob. -/
def HasGlobs : Prop := ∀ source ∈ c.exclusions d, ∃ g, Glob.parse source = .ok g

end Choices

section
variable {d : Disk} {c : Choices} {format : Format} {mode : MatchMode}

theorem exists_format (h : c.formatName d = "human" ∨ c.formatName d = "json") :
    ∃ format, Format.named? (c.formatName d) = some format := by
  rcases h with h | h
  · exact ⟨.human, by rw [h]; rfl⟩
  · exact ⟨.json, by rw [h]; rfl⟩

theorem resolve_eq_settings (hformat : Format.named? (c.formatName d) = some format)
    (hmode : MatchMode.named? (c.matchModeName d) = some mode) :
    Settings.resolve d c = .ok (c.settings d format mode) := by
  have hfinds := finds_settings d c
  rw [Choices.formatFaults, choiceFaults, if_pos (by rw [hformat]; rfl), Choices.matchModeFaults,
    choiceFaults, if_pos (by rw [hmode]; rfl)] at hfinds
  obtain ⟨s, ⟨hformat', hmode', hs⟩, hresolve⟩ := hfinds.exists_ok
  obtain rfl := Option.some.inj (hformat.symm.trans hformat')
  obtain rfl := Option.some.inj (hmode.symm.trans hmode')
  rw [hresolve, ← hs]

theorem readGlobs_of_fault {before after : List String} {source : String} {fault : GlobFault}
    (hbefore : ∀ other ∈ before, ∃ g, Glob.parse other = .ok g)
    (hsource : Glob.parse source = .error fault) :
    readGlobs (before ++ source :: after) = .error (.badGlob source fault) := by
  induction before with
  | nil => rw [List.nil_append, readGlobs, hsource]
  | cons other before ih =>
    obtain ⟨g, hg⟩ := hbefore other List.mem_cons_self
    rw [List.cons_append, readGlobs, hg]
    dsimp only
    rw [ih fun source h => hbefore source (List.mem_cons_of_mem other h)]
    rfl

theorem exists_readGlobs {sources : List String}
    (h : ∀ source ∈ sources, ∃ g, Glob.parse source = .ok g) :
    ∃ globs, readGlobs sources = .ok globs ∧
      List.Forall₂ (fun source g => Glob.parse source = .ok g) sources globs := by
  induction sources with
  | nil => exact ⟨[], rfl, .nil⟩
  | cons source sources ih =>
    obtain ⟨g, hg⟩ := h source List.mem_cons_self
    obtain ⟨globs, hread, hglobs⟩ := ih fun other h' => h other (List.mem_cons_of_mem source h')
    refine ⟨g :: globs, ?_, .cons hg hglobs⟩
    rw [readGlobs, hg]
    dsimp only
    rw [hread]
    rfl

theorem exists_parse_iff {source : String} :
    (∃ g, Glob.parse source = .ok g) ↔ (Glob.parse source).isOk = true := by
  cases Glob.parse source <;> simp [Except.isOk, Except.toBool]

theorem first_fault_of_not_hasGlobs (h : ¬ c.HasGlobs d) : ∃ before source after fault,
    c.exclusions d = before ++ source :: after ∧
      (∀ other ∈ before, ∃ g, Glob.parse other = .ok g) ∧ Glob.parse source = .error fault := by
  cases hfind : (c.exclusions d).find? fun source => !(Glob.parse source).isOk with
  | none =>
    refine absurd (fun source hsource => exists_parse_iff.mpr ?_) h
    simpa using List.find?_eq_none.mp hfind source hsource
  | some source =>
    obtain ⟨hsource, before, after, hsplit, hbefore⟩ := List.find?_eq_some_iff_append.mp hfind
    cases hparse : Glob.parse source with
    | ok g =>
      rw [exists_parse_iff.mp ⟨g, hparse⟩] at hsource
      cases hsource
    | error fault =>
      refine ⟨before, source, after, fault, hsplit, fun other hother => ?_, hparse⟩
      exact exists_parse_iff.mpr (by simpa using hbefore other hother)

/-! ## The root -/

theorem Disk.node?_eq_some_iff {path : String} {n : Node} :
    d.node? path = some n ↔ ∃ place, d.resolve path = .ok place ∧ d.root.at? place = some n := by
  rw [node?]
  cases d.resolve path with
  | error e => simp only [reduceCtorEq, false_and, exists_false]
  | ok place => simp only [Except.ok.injEq, exists_eq_left']

namespace Analysis

theorem findRoot_of_missing {path : String} (hroot : d.node? path = none) :
    findRoot d path = .error (.rootNotFound path) := by
  rw [Disk.node?] at hroot
  rw [findRoot]
  cases hresolve : d.resolve path with
  | error e => rfl
  | ok place =>
    rw [hresolve] at hroot
    dsimp only at hroot ⊢
    rw [hroot]

theorem findRoot_of_not_folder {path : String} {n : Node} (hroot : d.node? path = some n)
    (hfolder : ∀ entries, n ≠ .folder entries) :
    findRoot d path = .error (.rootNotFolder path) := by
  obtain ⟨place, hresolve, hat⟩ := Disk.node?_eq_some_iff.mp hroot
  rw [findRoot, hresolve]
  dsimp only
  rw [hat]
  cases n with
  | folder entries => exact absurd rfl (hfolder entries)
  | file | link => rfl

end Analysis

end

/-- The globs and the place of the root that a run goes by. -/
def Choices.inputs (d : Disk) (c : Choices) : Except Failure (List Glob × List String) := do
  let globs ← readGlobs (c.exclusions d)
  let place ← Analysis.findRoot d c.start
  .ok (globs, place)

/-! ## The error stream -/

namespace Command

/-- A line for the error stream: a label and a text. Unless there is no color, the label is bold and
of the color that terminals know by that number. -/
def told (noColor : Bool) (color : Nat) (label text : String) : String :=
  if noColor then label ++ ": " ++ text ++ "\n"
  else "\x1b[1m\x1b[" ++ toString color ++ "m" ++ label ++ ":\x1b[39m\x1b[0m " ++ text ++ "\n"

/-- What stands on the error stream before anything else once the settings are known. -/
def notice (d : Disk) (noColor : Bool) (c : Choices) : String :=
  if (Settings.load? d (Settings.folder d c.start)).isNone ∧ c.formatName d ≠ "json" then
    told noColor 36 "note" "No portdiag.toml found; using defaults."
  else ""

theorem message_eq (noColor : Bool) {style : Console.Style} {color : Nat}
    (hstyle : ∀ s, style.apply s = Console.sequence color ++ s ++ Console.sequence 39)
    (label text : String) : message noColor style (label ++ ":") text =
      told noColor color label text := by
  cases noColor with
  | true => simp [message, told, Console.paint, String.append_assoc]
  | false =>
    have hbold : ∀ s, Console.Style.bold.apply s = "\x1b[1m" ++ s ++ "\x1b[0m" := fun _ => rfl
    have hstart : "\x1b[1m\x1b[" = "\x1b[1m" ++ "\x1b[" := rfl
    have hstop : ":\x1b[39m\x1b[0m " = ":" ++ Console.sequence 39 ++ "\x1b[0m" ++ " " := rfl
    rw [told, if_neg Bool.false_ne_true, hstart, hstop, message, Console.paint, Bool.not_false,
      if_pos rfl, List.foldl_cons, List.foldl_cons, List.foldl_nil, hstyle, hbold,
      Console.sequence]
    simp only [String.append_assoc]

section
variable {d : Disk} {c : Choices} {format : Format} {mode : MatchMode}

theorem errorLine_eq (noColor : Bool) (f : Failure) :
    errorLine noColor f = told noColor 31 "error" f.message :=
  message_eq noColor (fun _ => rfl) "error" f.message

theorem savedLine_eq (noColor : Bool) (path : String) :
    savedLine noColor path = told noColor 34 "info" ("Report saved to " ++ path) :=
  message_eq noColor (fun _ => rfl) "info" ("Report saved to " ++ path)

theorem notice_eq (noColor : Bool) (hformat : Format.named? (c.formatName d) = some format) :
    (if (c.settings d format mode).source.isNone && (c.settings d format mode).format ≠ .json then
      noteLine noColor else "") = notice d noColor c := by
  have hline : noteLine noColor =
      told noColor 36 "note" "No portdiag.toml found; using defaults." :=
    message_eq noColor (fun _ => rfl) "note" _
  have hjson : c.formatName d ≠ "json" ↔ format ≠ .json := by
    rw [← Format.named?_eq_some_iff.mp hformat]
    cases format <;> decide
  show (if _ && format ≠ .json then _ else _) = _
  simp only [notice, Choices.settings, hline, hjson, Option.isNone_map, Bool.and_eq_true,
    decide_eq_true_eq]

/-! ## Runs with valid settings -/

theorem reportFor_settings {rules : RuleTable} (hrules : builtinTable mode = .ok rules) :
    reportFor d (c.settings d format mode) = (c.inputs d).map fun i =>
      Analysis.ofFolder ⟨rules, .builtin, i.1⟩ (Disk.canonical i.2) (Analysis.folderAt d i.2) := by
  rw [reportFor, Choices.settings, hrules, Choices.inputs]
  cases readGlobs (c.exclusions d) with
  | error f => rfl
  | ok globs =>
    show (Analysis.findRoot d c.start >>= _) = (Analysis.findRoot d c.start >>= _).map _
    cases Analysis.findRoot d c.start <;> rfl

/-- A run with valid settings tells of the first failure, or it prints its report and then writes
it. -/
theorem analyze_eq (noColor : Bool) (hformat : Format.named? (c.formatName d) = some format)
    (hmode : MatchMode.named? (c.matchModeName d) = some mode) : analyze d noColor c =
      match reportFor d (c.settings d format mode) with
      | .error f => ⟨2, "", notice d noColor c ++ told noColor 31 "error" f.message, none, d⟩
      | .ok r =>
        match c.destination d with
        | none => ⟨0, printed noColor format r, notice d noColor c, none, d⟩
        | some path =>
          match d.target path with
          | .error e => ⟨1, printed noColor format r, notice d noColor c ++ told noColor 31 "error"
              ("Failed to write report to " ++ path ++ ": " ++ e.message), none, d⟩
          | .ok place => ⟨0, printed noColor format r,
              notice d noColor c ++ told noColor 34 "info" ("Report saved to " ++ path),
              some (path, r.toJson),
              { d with
                root := d.root.put place (.file (some (Utf8.encode r.toJson.toList))) }⟩ := by
  rw [analyze, resolve_eq_settings hformat hmode]
  dsimp only
  rw [notice_eq noColor hformat, show (c.settings d format mode).output = c.destination d from rfl]
  cases reportFor d (c.settings d format mode) with
  | error f =>
    dsimp only
    rw [errorLine_eq]
  | ok r =>
    dsimp only
    cases c.destination d with
    | none => rfl
    | some path =>
      dsimp only
      rw [Disk.write_eq]
      cases d.target path with
      | error e =>
        dsimp only [Except.map]
        rw [errorLine_eq]
        rfl
      | ok place =>
        dsimp only [Except.map]
        rw [savedLine_eq]
        rfl

end

end Command

end Readiness
