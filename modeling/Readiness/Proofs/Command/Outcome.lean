import Readiness.Proofs.Command.Steps

/-!
# What a run comes to

A run of the analysis is refused or prints a report. The reasons for which it may be refused are
looked for in a fixed order, and the first one is told. Whether the report is written too, and
whether that succeeds, decides the exit code and nothing of what is printed.

* `Command.Refuses` : why a run is refused, with all that is told then.
* `Choices.IsReport` : the report that a run is asked for.
* `Command.Reports` : what a run does with its report.
* `Command.run_outcome` : the outcome of every run of the analysis.
-/

namespace Readiness

/-! ## Reports that are asked for -/

namespace Choices
variable {d : Disk} {c : Choices} {r s : Report}

/-- Whether a report is the one on the tree with the match mode and the exclusions. -/
def IsReport (d : Disk) (c : Choices) (r : Report) : Prop :=
  ∃ mode rules globs place entries,
    MatchMode.named? (c.matchModeName d) = some mode ∧
    Command.builtinTable mode = .ok rules ∧
    List.Forall₂ (fun source g => Glob.parse source = .ok g) (c.exclusions d) globs ∧
    d.resolve c.start = .ok place ∧ d.root.at? place = some (.folder entries) ∧
    r = Analysis.ofFolder ⟨rules, .builtin, globs⟩ (Disk.canonical place)
      (Analysis.folderAt d place)

theorem IsReport.unique (hr : c.IsReport d r) (hs : c.IsReport d s) : r = s := by
  obtain ⟨mode, rules, globs, place, entries, hmode, hrules, hglobs, hplace, -, rfl⟩ := hr
  obtain ⟨mode', rules', globs', place', entries', hmode', hrules', hglobs', hplace', -, rfl⟩ := hs
  obtain rfl := Option.some.inj (hmode.symm.trans hmode')
  obtain rfl := Except.ok.inj (hrules.symm.trans hrules')
  obtain rfl := Except.ok.inj (hplace.symm.trans hplace')
  have hfunctional : Relator.RightUnique fun source g => Glob.parse source = .ok g :=
    fun _ _ _ hg hg' => Except.ok.inj (hg.symm.trans hg')
  rw [List.right_unique_forall₂' hfunctional hglobs hglobs']

end Choices

namespace Command

/-! ## Outcomes -/

section
variable (d : Disk) (noColor : Bool) (c : Choices)

/-- Why a run is refused, with all that stands on the error stream then. The reasons are in the
order in which they are looked for, and each one supposes that there is none of those before. -/
inductive Refuses : String → Prop where
  | format (hhuman : c.formatName d ≠ "human") (hjson : c.formatName d ≠ "json") :
    Refuses (told noColor 31 "error"
      ("Invalid value '" ++ c.formatName d ++ "' for format (expected human|json)"))
  | matchMode (hformat : c.formatName d = "human" ∨ c.formatName d = "json")
    (hmode : MatchMode.named? (c.matchModeName d) = none) :
    Refuses (told noColor 31 "error"
      ("Invalid value '" ++ c.matchModeName d ++ "' for match mode (expected substring|word)"))
  | exclusion {before after : List String} {source : String} {fault : GlobFault}
    (hsettings : c.HasSettings d) (hsplit : c.exclusions d = before ++ source :: after)
    (hbefore : ∀ other ∈ before, ∃ g, Glob.parse other = .ok g)
    (hsource : Glob.parse source = .error fault) :
    Refuses (notice d noColor c ++ told noColor 31 "error"
      ("Invalid pattern '" ++ source ++ "': " ++ fault.message))
  | rootMissing (hsettings : c.HasSettings d) (hglobs : c.HasGlobs d)
    (hroot : d.node? c.start = none) :
    Refuses (notice d noColor c ++ told noColor 31 "error" ("Root path not found: " ++ c.start))
  | rootNotFolder {n : Node} (hsettings : c.HasSettings d) (hglobs : c.HasGlobs d)
    (hroot : d.node? c.start = some n) (hfolder : ∀ entries, n ≠ .folder entries) :
    Refuses (notice d noColor c ++
      told noColor 31 "error" ("Root path is not a directory: " ++ c.start))

/-- Whether a run prints the report, in the format of its name, and does with it what the choices
say. The text of the document is what a written file holds, whatever is printed. -/
structure Reports (r : Report) (out : RunResult) : Prop where
  isReport : c.IsReport d r
  format : c.formatName d = "human" ∨ c.formatName d = "json"
  stdout_human : c.formatName d = "human" → out.stdout = Console.report (!noColor) r
  stdout_json : c.formatName d = "json" → out.stdout = r.toJson ++ "\n"
  unwritten : c.destination d = none →
    out.code = 0 ∧ out.stderr = notice d noColor c ∧ out.written = none ∧ out.disk = d
  failed : ∀ path e, c.destination d = some path → d.target path = .error e →
    out.code = 1 ∧ out.written = none ∧ out.disk = d ∧
      out.stderr = notice d noColor c ++
        told noColor 31 "error" ("Failed to write report to " ++ path ++ ": " ++ e.message)
  written : ∀ path place, c.destination d = some path → d.target path = .ok place →
    out.code = 0 ∧ out.written = some (path, r.toJson) ∧ out.disk.here = d.here ∧
      out.disk.root = d.root.put place (.file (some (Utf8.encode r.toJson.toList))) ∧
      out.disk.root.at? place = some (.file (some (Utf8.encode r.toJson.toList))) ∧
      out.stderr = notice d noColor c ++ told noColor 34 "info" ("Report saved to " ++ path)

/-- What a run of the analysis with the choices may come to. -/
structure IsOutcome (out : RunResult) : Prop where
  code_eq_two_iff : out.code = 2 ↔ ∃ text, Refuses d noColor c text
  /-- The first reason is told, and nothing else happens. -/
  refused : ∀ text, Refuses d noColor c text →
    out.stdout = "" ∧ out.stderr = text ∧ out.written = none ∧ out.disk = d
  code_eq_one_iff : out.code = 1 ↔ (¬ ∃ text, Refuses d noColor c text) ∧
    ∃ path e, c.destination d = some path ∧ d.target path = .error e
  /-- Otherwise the code is zero, whatever the report says. -/
  code_le : out.code ≤ 2
  reported : (¬ ∃ text, Refuses d noColor c text) → ∃ r, Reports d noColor c r out
  unwritten : c.destination d = none ∨ out.code = 1 → out.written = none ∧ out.disk = d

end

section
variable {d : Disk} {c : Choices} {format : Format} {mode : MatchMode}

/-! ## Runs that are refused -/

theorem analyze_of_error {noColor : Bool} {f : Failure} (hsettings : c.HasSettings d)
    (h : c.inputs d = .error f) : analyze d noColor c =
      ⟨2, "", notice d noColor c ++ told noColor 31 "error" f.message, none, d⟩ := by
  obtain ⟨hformat, mode, hmode⟩ := hsettings
  obtain ⟨format, hformat⟩ := exists_format hformat
  obtain ⟨rules, hrules⟩ := exists_builtinTable mode
  rw [analyze_eq noColor hformat hmode, reportFor_settings hrules, h]
  rfl

theorem analyze_of_refuses {noColor : Bool} {text : String} (h : Refuses d noColor c text) :
    analyze d noColor c = ⟨2, "", text, none, d⟩ := by
  have hfinds := finds_settings d c
  cases h with
  | format hhuman hjson =>
    have hformat := Format.named?_eq_none_iff.mpr ⟨hhuman, hjson⟩
    rw [Choices.formatFaults, choiceFaults, hformat] at hfinds
    rw [analyze, hfinds.eq_error]
    dsimp only
    rw [errorLine_eq]
    rfl
  | matchMode hformat hmode =>
    obtain ⟨format, hformat⟩ := exists_format hformat
    rw [Choices.formatFaults, choiceFaults, hformat, Choices.matchModeFaults, choiceFaults,
      hmode] at hfinds
    rw [analyze, hfinds.eq_error]
    dsimp only
    rw [errorLine_eq]
    rfl
  | @exclusion before after source fault hsettings hsplit hbefore hsource =>
    refine analyze_of_error hsettings (f := .badGlob source fault) ?_
    rw [Choices.inputs, hsplit, readGlobs_of_fault hbefore hsource]
    rfl
  | rootMissing hsettings hglobs hroot =>
    obtain ⟨globs, hread, -⟩ := exists_readGlobs hglobs
    refine analyze_of_error hsettings (f := .rootNotFound c.start) ?_
    rw [Choices.inputs, hread, Analysis.findRoot_of_missing hroot]
    rfl
  | rootNotFolder hsettings hglobs hroot hfolder =>
    obtain ⟨globs, hread, -⟩ := exists_readGlobs hglobs
    refine analyze_of_error hsettings (f := .rootNotFolder c.start) ?_
    rw [Choices.inputs, hread, Analysis.findRoot_of_not_folder hroot hfolder]
    rfl

/-- A run is refused just if something that was asked for is not there. -/
theorem exists_refuses_iff (d : Disk) (noColor : Bool) (c : Choices) :
    (∃ text, Refuses d noColor c text) ↔ ¬ (c.HasSettings d ∧ c.HasGlobs d ∧
      ∃ entries, d.node? c.start = some (.folder entries)) := by
  constructor
  · rintro ⟨text, h⟩ ⟨hsettings, hglobs, entries, hroot⟩
    cases h with
    | format hhuman hjson => exact hsettings.format.elim hhuman hjson
    | matchMode hformat hmode =>
      obtain ⟨mode, hmode'⟩ := hsettings.matchMode
      rw [hmode] at hmode'
      cases hmode'
    | @exclusion before after source fault hsettings hsplit hbefore hsource =>
      obtain ⟨g, hg⟩ := hglobs source (by simp [hsplit])
      rw [hsource] at hg
      cases hg
    | rootMissing hsettings hglobs hmissing =>
      rw [hmissing] at hroot
      cases hroot
    | rootNotFolder hsettings hglobs hn hfolder =>
      exact hfolder entries (Option.some.inj (hn.symm.trans hroot))
  · intro h
    by_cases hformat : c.formatName d = "human" ∨ c.formatName d = "json"
    swap
    · exact ⟨_, .format (fun hhuman => hformat (.inl hhuman)) fun hjson => hformat (.inr hjson)⟩
    cases hmode : MatchMode.named? (c.matchModeName d) with
    | none => exact ⟨_, .matchMode hformat hmode⟩
    | some mode =>
      have hsettings : c.HasSettings d := ⟨hformat, mode, hmode⟩
      by_cases hglobs : c.HasGlobs d
      swap
      · obtain ⟨before, source, after, fault, hsplit, hbefore, hsource⟩ :=
          first_fault_of_not_hasGlobs hglobs
        exact ⟨_, .exclusion hsettings hsplit hbefore hsource⟩
      cases hroot : d.node? c.start with
      | none => exact ⟨_, .rootMissing hsettings hglobs hroot⟩
      | some n =>
        refine ⟨_, .rootNotFolder hsettings hglobs hroot fun entries hn => ?_⟩
        exact h ⟨hsettings, hglobs, entries, by rw [hroot, hn]⟩

/-! ## Runs with a report -/

theorem printed_human (noColor : Bool) (r : Report) :
    printed noColor .human r = Console.report (!noColor) r := by
  cases noColor <;> rfl

theorem exists_reportFor (format : Format)
    (hmode : MatchMode.named? (c.matchModeName d) = some mode) (hglobs : c.HasGlobs d)
    {entries : List (String × Node)} (hroot : d.node? c.start = some (.folder entries)) :
    ∃ r, c.IsReport d r ∧ reportFor d (c.settings d format mode) = .ok r := by
  obtain ⟨rules, hrules⟩ := exists_builtinTable mode
  obtain ⟨globs, hread, hglobs⟩ := exists_readGlobs hglobs
  obtain ⟨place, hplace, hat⟩ := Disk.node?_eq_some_iff.mp hroot
  refine ⟨_, ⟨mode, rules, globs, place, entries, hmode, hrules, hglobs, hplace, hat, rfl⟩, ?_⟩
  have hfind : Analysis.findRoot d c.start = .ok place := by
    rw [Analysis.findRoot, hplace]
    dsimp only
    rw [hat]
  rw [reportFor_settings hrules, Choices.inputs, hread, hfind]
  rfl

theorem reports_of_reportFor (noColor : Bool) {r : Report}
    (hformat : Format.named? (c.formatName d) = some format)
    (hmode : MatchMode.named? (c.matchModeName d) = some mode) (hr : c.IsReport d r)
    (hreport : reportFor d (c.settings d format mode) = .ok r) :
    Reports d noColor c r (analyze d noColor c) := by
  have hname := Format.named?_eq_some_iff.mp hformat
  have hstdout : (analyze d noColor c).stdout = printed noColor format r := by
    rw [analyze_eq noColor hformat hmode, hreport]
    dsimp only
    cases c.destination d with
    | none => rfl
    | some path =>
      dsimp only
      cases d.target path <;> rfl
  refine {
    isReport := hr
    format := ?_
    stdout_human := fun h => ?_
    stdout_json := fun h => ?_
    unwritten := fun h => ?_
    failed := fun path e h htarget => ?_
    written := fun path place h htarget => ?_ }
  · rw [← hname]
    cases format with
    | human => exact .inl rfl
    | json => exact .inr rfl
  · obtain rfl : Format.human = format := Option.some.inj (by rw [← hformat, h]; rfl)
    rw [hstdout, printed_human]
  · obtain rfl : Format.json = format := Option.some.inj (by rw [← hformat, h]; rfl)
    rw [hstdout, printed]
  · rw [analyze_eq noColor hformat hmode, hreport, h]
    dsimp only
    exact ⟨rfl, rfl, rfl, rfl⟩
  · rw [analyze_eq noColor hformat hmode, hreport, h]
    dsimp only
    rw [htarget]
    exact ⟨rfl, rfl, rfl, rfl⟩
  · rw [analyze_eq noColor hformat hmode, hreport, h]
    dsimp only
    rw [htarget]
    exact ⟨rfl, rfl, rfl, rfl, Node.at?_put d.root place _, rfl⟩

theorem refuses_or_reports (d : Disk) (noColor : Bool) (c : Choices) :
    (∃ text, Refuses d noColor c text) ∨ ∃ r, Reports d noColor c r (analyze d noColor c) := by
  rw [or_iff_not_imp_left, exists_refuses_iff, not_not]
  rintro ⟨⟨hformat, mode, hmode⟩, hglobs, entries, hroot⟩
  obtain ⟨format, hformat⟩ := exists_format hformat
  obtain ⟨r, hr, hreport⟩ := exists_reportFor format hmode hglobs hroot
  exact ⟨r, reports_of_reportFor noColor hformat hmode hr hreport⟩

namespace Reports
variable {noColor : Bool} {r : Report} {out : RunResult}

theorem code_eq_one_iff (h : Reports d noColor c r out) :
    out.code = 1 ↔ ∃ path e, c.destination d = some path ∧ d.target path = .error e := by
  cases hdestination : c.destination d with
  | none => simp [(h.unwritten hdestination).1]
  | some path =>
    cases htarget : d.target path with
    | error e => simp [(h.failed path e hdestination htarget).1, htarget]
    | ok place => simp [(h.written path place hdestination htarget).1, htarget]

theorem code_le_one (h : Reports d noColor c r out) : out.code ≤ 1 := by
  cases hdestination : c.destination d with
  | none => exact (h.unwritten hdestination).1.trans_le zero_le_one
  | some path =>
    cases htarget : d.target path with
    | error e => exact (h.failed path e hdestination htarget).1.le
    | ok place => exact (h.written path place hdestination htarget).1.trans_le zero_le_one

end Reports

theorem analyze_isOutcome (d : Disk) (noColor : Bool) (c : Choices) :
    IsOutcome d noColor c (analyze d noColor c) := by
  have hcases := refuses_or_reports d noColor c
  have hrefused : ∀ {text}, Refuses d noColor c text → (analyze d noColor c).code = 2 :=
    fun h => by rw [analyze_of_refuses h]
  have hnot : ∀ {r}, Reports d noColor c r (analyze d noColor c) →
      ¬ ∃ text, Refuses d noColor c text := by
    rintro r hr ⟨text, htext⟩
    have := hr.code_le_one
    rw [hrefused htext] at this
    omega
  refine {
    code_eq_two_iff := ⟨fun hcode => hcases.resolve_right ?_, fun ⟨text, h⟩ => hrefused h⟩
    refused := fun text h => ?_
    code_eq_one_iff := ?_
    code_le := ?_
    reported := hcases.resolve_left
    unwritten := fun h => ?_ }
  · rintro ⟨r, hr⟩
    have := hr.code_le_one
    omega
  · rw [analyze_of_refuses h]
    exact ⟨rfl, rfl, rfl, rfl⟩
  · rcases hcases with ⟨text, htext⟩ | ⟨r, hr⟩
    · rw [hrefused htext]
      simp [show ∃ text, Refuses d noColor c text from ⟨text, htext⟩]
    · rw [hr.code_eq_one_iff, and_iff_right (hnot hr)]
  · rcases hcases with ⟨text, htext⟩ | ⟨r, hr⟩
    · exact (hrefused htext).le
    · exact hr.code_le_one.trans one_le_two
  · rcases hcases with ⟨text, htext⟩ | ⟨r, hr⟩
    · rw [analyze_of_refuses htext]
      exact ⟨rfl, rfl⟩
    · rcases h with hdestination | hcode
      · exact (hr.unwritten hdestination).2.2
      · obtain ⟨path, e, hdestination, htarget⟩ := hr.code_eq_one_iff.mp hcode
        exact ⟨(hr.failed path e hdestination htarget).2.1,
          (hr.failed path e hdestination htarget).2.2.1⟩

theorem Refuses.with_output {noColor : Bool} {text : String} (h : Refuses d noColor c text)
    (output : Option String) : Refuses d noColor { c with output } text := by
  cases h with
  | format hhuman hjson => exact .format hhuman hjson
  | matchMode hformat hmode => exact .matchMode hformat hmode
  | exclusion hsettings hsplit hbefore hsource =>
    exact .exclusion ⟨hsettings.format, hsettings.matchMode⟩ hsplit hbefore hsource
  | rootMissing hsettings hglobs hroot =>
    exact .rootMissing ⟨hsettings.format, hsettings.matchMode⟩ hglobs hroot
  | rootNotFolder hsettings hglobs hroot hfolder =>
    exact .rootNotFolder ⟨hsettings.format, hsettings.matchMode⟩ hglobs hroot hfolder

theorem IsOutcome.stdout_eq {noColor : Bool} {output : Option String} {out out' : RunResult}
    (h : IsOutcome d noColor c out) (h' : IsOutcome d noColor { c with output } out') :
    out'.stdout = out.stdout := by
  by_cases hrefuses : ∃ text, Refuses d noColor c text
  · obtain ⟨text, htext⟩ := hrefuses
    rw [(h.refused text htext).1, (h'.refused text (htext.with_output output)).1]
  · obtain ⟨r, hr⟩ := h.reported hrefuses
    obtain ⟨r', hr'⟩ := h'.reported fun ⟨text, htext⟩ =>
      hrefuses ⟨text, htext.with_output c.output⟩
    obtain rfl : r' = r := Choices.IsReport.unique (c := c) hr'.isReport hr.isReport
    rcases hr.format with hhuman | hjson
    · rw [hr.stdout_human hhuman, hr'.stdout_human hhuman]
    · rw [hr.stdout_json hjson, hr'.stdout_json hjson]

/-- The outcome of every run of the analysis, and what two runs that differ in the path of the
written report have in common. -/
theorem run_outcome (d : Disk) (noColor : Bool) (args : List String) (c : Choices)
    (h : Invocation.ofArguments args = .ok (.analyze c)) :
    IsOutcome d noColor c (run d noColor args) ∧
      ∀ output args', Invocation.ofArguments args' = .ok (.analyze { c with output }) →
        (run d noColor args').stdout = (run d noColor args).stdout := by
  have hrun : ∀ {args c}, Invocation.ofArguments args = .ok (.analyze c) →
      IsOutcome d noColor c (run d noColor args) := by
    intro args c h
    rw [run, h]
    exact analyze_isOutcome d noColor c
  exact ⟨hrun h, fun output args' h' => (hrun h).stdout_eq (hrun h')⟩

end

/-- A folder to analyse, whose settings file asks for JSON. -/
def sampleFolder : Node :=
  .folder [
    ("portdiag.toml", .file (some (Utf8.encode "format = \"json\"".toList))),
    (BuildFile.fileName, .file (some (Utf8.encode "find_package(Qt5)".toList))),
    ("map.c", .file none)]

def sampleDisk : Disk := ⟨.folder [("lib", sampleFolder)], []⟩

def sampleReport : Report where
  projectPath := "/lib"
  fileStats := ⟨1, 0, 0, 0⟩
  apiUsages := []
  dependencies := [⟨"Qt5", true, .unknown⟩]
  pathUsages := []
  grade := .A
  estimatedEffort := "< 1 day"
  risks := ["straightforward port"]
  recommendations := ["verify dependency availability on the target"]

def sampleChoices (output format : Option String) : Choices :=
  ⟨some "lib", output, format, [], none⟩

theorem load_sampleDisk : Settings.load? sampleDisk (Settings.folder sampleDisk "lib") =
    some ⟨some "json", none, none, none⟩ := by decide +kernel

theorem file_sampleChoices (output format : Option String) :
    (sampleChoices output format).file sampleDisk = ⟨some "json", none, none, none⟩ := by
  rw [Choices.file, show (sampleChoices output format).start = "lib" from rfl, load_sampleDisk]
  rfl

theorem formatName_sampleChoices (output format : Option String) :
    (sampleChoices output format).formatName sampleDisk = format.getD "json" := by
  rw [Choices.formatName, file_sampleChoices]
  cases format <;> rfl

theorem destination_sampleChoices (output format : Option String) :
    (sampleChoices output format).destination sampleDisk = output := by
  rw [Choices.destination, file_sampleChoices]
  cases output <;> rfl

theorem notice_sampleChoices (noColor : Bool) (output format : Option String) :
    notice sampleDisk noColor (sampleChoices output format) = "" := by
  rw [notice, show (sampleChoices output format).start = "lib" from rfl, load_sampleDisk]
  exact if_neg fun h => Bool.false_ne_true h.1

theorem exclusions_sampleChoices (output format : Option String) :
    (sampleChoices output format).exclusions sampleDisk = [] := by
  rw [Choices.exclusions, file_sampleChoices]
  rfl

theorem eq_sampleReport {output format : Option String} {r : Report}
    (hr : (sampleChoices output format).IsReport sampleDisk r) : r = sampleReport := by
  obtain ⟨mode, rules, globs, place, entries, -, -, hglobs, hplace, -, rfl⟩ := hr
  rw [exclusions_sampleChoices, List.forall₂_nil_left_iff] at hglobs
  have hresolve : sampleDisk.resolve "lib" = .ok ["lib"] := by cbv
  rw [show (sampleChoices output format).start = "lib" from rfl, hresolve] at hplace
  obtain rfl := Except.ok.inj hplace
  have hfolder : Analysis.folderAt sampleDisk ["lib"] = sampleFolder := by cbv
  have hcollect : Inventory.collect sampleFolder [] = [⟨"map.c", .c, none⟩] := by
    have hfound : (sampleFolder.files.filterMap Inventory.classify?).filter
      (fun f => !Inventory.isExcluded [] f.path) = [⟨"map.c", .c, none⟩] := by decide +kernel
    rw [Inventory.collect, hfound]
    exact List.mergeSort_singleton _
  have hdependencies :
      Analysis.dependencies .builtin sampleFolder = [⟨"Qt5", true, .unknown⟩] := by decide +kernel
  have hfindings : ∀ rules, Usage.findings (Usage.zero.merge .zero) rules = [] := fun rules => by
    rw [Usage.findings, show Usage.zero.merge .zero = .zero from rfl, Usage.zero,
      List.zip_nil_right]
    exact List.mergeSort_nil
  have hscan : [⟨"map.c", .c, none⟩].map (Analysis.scan rules) = [⟨⟨1, 0, 0, 0⟩, .zero, []⟩] := rfl
  rw [hglobs, hfolder, Analysis.ofFolder, hcollect, hdependencies, Analysis.assemble]
  dsimp only
  rw [hscan, List.foldl_cons, List.foldl_nil, List.foldl_cons, List.foldl_nil, hfindings]
  decide +kernel

theorem reports_sample {noColor : Bool} {output format : Option String} {out : RunResult}
    (h : IsOutcome sampleDisk noColor (sampleChoices output format) out)
    (hformat : format = none ∨ format = some "human") :
    Reports sampleDisk noColor (sampleChoices output format) sampleReport out := by
  have haccepted : ¬ ∃ text, Refuses sampleDisk noColor (sampleChoices output format) text := by
    rw [exists_refuses_iff, not_not]
    refine ⟨⟨?_, .substring, ?_⟩, ?_, ?_⟩
    · rw [formatName_sampleChoices]
      rcases hformat with rfl | rfl
      · exact .inr rfl
      · exact .inl rfl
    · rw [Choices.matchModeName, file_sampleChoices]
      exact show MatchMode.named? "substring" = some .substring by decide +kernel
    · rw [Choices.HasGlobs, exclusions_sampleChoices]
      exact List.forall_mem_nil _
    · exact ⟨_, show sampleDisk.node? "lib" = _ by cbv⟩
  obtain ⟨r, hr⟩ := h.reported haccepted
  rwa [eq_sampleReport hr.isReport] at hr

def sampleJson : String := String.join [
  "\x7b\n",
  "  \"project_path\": \"/lib\",\n",
  "  \"file_stats\": \x7b\n",
  "    \"c\": 1,\n",
  "    \"cpp\": 0,\n",
  "    \"h\": 0,\n",
  "    \"total_lines\": 0\n",
  "  \x7d,\n",
  "  \"api_usages\": [],\n",
  "  \"dependencies\": [\n",
  "    \x7b\n",
  "      \"name\": \"Qt5\",\n",
  "      \"required\": true,\n",
  "      \"availability\": \"unknown\"\n",
  "    \x7d\n",
  "  ],\n",
  "  \"path_usages\": [],\n",
  "  \"grade\": \"A\",\n",
  "  \"estimated_effort\": \"< 1 day\",\n",
  "  \"risks\": [\n",
  "    \"straightforward port\"\n",
  "  ],\n",
  "  \"recommendations\": [\n",
  "    \"verify dependency availability on the target\"\n",
  "  ]\n",
  "\x7d"]

def sampleText : String :=
  "╔════════════════════════════════════════════════════════════╗\n" ++
  "║                 Porting Feasibility Report                 ║\n" ++
  "╠════════════════════════════════════════════════════════════╣\n" ++
  "║ Grade: A                                                   ║\n" ++
  "║ Estimated effort: < 1 day                                  ║\n" ++
  "╚════════════════════════════════════════════════════════════╝\n\n" ++
  "[Files]\n  C files: 1\n  C++ files: 0\n  Headers: 0\n  Total lines: 0\n\n" ++
  "[Dependencies]\n  ? Qt5\n\n" ++
  "[Risks]\n  ⚠ straightforward port\n\n" ++
  "[Recommendations]\n  → verify dependency availability on the target\n"

theorem toJson_sampleReport : sampleReport.toJson = sampleJson := by
  rw [Report.toJson, Json.pretty, sampleJson, String.join_eq]
  exact congrArg String.ofList (by decide +kernel)

theorem report_sampleReport : Console.report false sampleReport = sampleText := by decide +kernel

theorem run_outcome_sample :
    run sampleDisk true ["analyze", "lib"] = ⟨0, sampleJson ++ "\n", "", none, sampleDisk⟩ ∧
      run sampleDisk true ["analyze", "lib", "-o", "out/r.json"] = ⟨1, sampleJson ++ "\n",
        "error: Failed to write report to out/r.json: No such file or directory (os error 2)\n",
        none, sampleDisk⟩ ∧
      (run sampleDisk true ["analyze", "lib", "--format", "human", "-o", "r.json"]).stdout =
        sampleText ∧
      (run sampleDisk true ["analyze", "lib", "--format", "human", "-o", "r.json"]).written =
        some ("r.json", sampleJson) ∧
      run sampleDisk false ["analyze", "lib", "--format", "xml"] = ⟨2, "",
        "\x1b[1m\x1b[31merror:\x1b[39m\x1b[0m " ++
          "Invalid value 'xml' for format (expected human|json)\n", none, sampleDisk⟩ := by
  have hjson := reports_sample (run_outcome sampleDisk true ["analyze", "lib"]
    (sampleChoices none none) (by rfl)).1 (.inl rfl)
  have hfailed := reports_sample (run_outcome sampleDisk true
    ["analyze", "lib", "-o", "out/r.json"] (sampleChoices (some "out/r.json") none) (by rfl)).1
    (.inl rfl)
  have hhuman := reports_sample (run_outcome sampleDisk true
    ["analyze", "lib", "--format", "human", "-o", "r.json"]
    (sampleChoices (some "r.json") (some "human")) (by rfl)).1 (.inr rfl)
  have hxml := (run_outcome sampleDisk false ["analyze", "lib", "--format", "xml"]
    (sampleChoices none (some "xml")) (by rfl)).1
  refine ⟨?_, ?_, ?_, ?_, ?_⟩
  · obtain ⟨hcode, hstderr, hwritten, hdisk⟩ := hjson.unwritten (destination_sampleChoices _ _)
    have hstdout := hjson.stdout_json (formatName_sampleChoices _ _)
    rw [toJson_sampleReport] at hstdout
    rw [notice_sampleChoices] at hstderr
    exact RunResult.ext hcode hstdout hstderr hwritten hdisk
  · obtain ⟨hcode, hwritten, hdisk, hstderr⟩ := hfailed.failed "out/r.json" .missing
      (destination_sampleChoices _ _) (by decide +kernel)
    have hstdout := hfailed.stdout_json (formatName_sampleChoices _ _)
    rw [toJson_sampleReport] at hstdout
    rw [notice_sampleChoices] at hstderr
    exact RunResult.ext hcode hstdout hstderr hwritten hdisk
  · rw [hhuman.stdout_human (formatName_sampleChoices _ _)]
    exact report_sampleReport
  · obtain ⟨-, hwritten, -⟩ := hhuman.written "r.json" ["r.json"] (destination_sampleChoices _ _)
      (by decide +kernel)
    rw [hwritten, toJson_sampleReport]
  · have hname := formatName_sampleChoices none (some "xml")
    have hrefuses := @Refuses.format sampleDisk false (sampleChoices none (some "xml"))
      (by rw [hname]; decide) (by rw [hname]; decide)
    obtain ⟨hstdout, hstderr, hwritten, hdisk⟩ := hxml.refused _ hrefuses
    have hcode := hxml.code_eq_two_iff.mpr ⟨_, hrefuses⟩
    rw [hname] at hstderr
    exact RunResult.ext hcode hstdout hstderr hwritten hdisk

end Command

end Readiness
