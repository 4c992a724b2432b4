import Readiness.Analysis
import Readiness.Command.Arguments
import Readiness.Report.Console
import Readiness.Report.Document
import Readiness.Rule.Builtin

/-!
# Runs of the program

What a run prints, how it exits and what it writes, as a function of the arguments and the disk.

* `Command.analyze` is the analysis command.
* `Command.run` is the whole program.

The report is printed before it is written, so that a write that fails loses nothing.
-/

namespace Readiness

/-- The result of a run. -/
@[ext]
structure RunResult where
  code : Nat
  stdout : String
  stderr : String
  /-- The file that was written, by its path. -/
  written : Option (String × String)
  disk : Disk

namespace Command

def version : String := "0.1.0"

/-- Whether output in a format is coloured; `noColor` turns colour off. -/
def usesColor (format : String) (noColor : Bool) : Bool := format != "json" && !noColor

/-- A line for the error stream: a coloured label and a text. -/
def message (noColor : Bool) (color : Console.Style) (label text : String) : String :=
  Console.paint (!noColor) [color, .bold] label ++ " " ++ text ++ "\n"

def errorLine (noColor : Bool) (f : Failure) : String := message noColor .red "error:" f.message

def noteLine (noColor : Bool) : String :=
  message noColor .cyan "note:" "No portdiag.toml found; using defaults."

def savedLine (noColor : Bool) (path : String) : String :=
  message noColor .blue "info:" ("Report saved to " ++ path)

def builtinTable (mode : MatchMode) : Except Failure RuleTable :=
  (RuleTable.ofRules mode Rule.builtin).mapError fun e => .badRule e.1.pattern e.2

def reportFor (d : Disk) (s : Settings) : Except Failure Report := do
  let rules ← builtinTable s.matchMode
  let exclusions ← readGlobs s.exclude
  Analysis.run d s.root ⟨rules, .builtin, exclusions⟩

/-- The text of a report in a format. -/
def printed (noColor : Bool) (format : Format) (r : Report) : String :=
  match format with
  | .json => r.toJson ++ "\n"
  | .human => Console.report (usesColor format.label noColor) r

/-- The analysis command. Log lines are left out of the error stream, such as the warning about a
settings file that is not valid. -/
def analyze (d : Disk) (noColor : Bool) (c : Choices) : RunResult :=
  match Settings.resolve d c with
  | .error f => ⟨2, "", errorLine noColor f, none, d⟩
  | .ok s =>
    let note := if s.source.isNone && s.format ≠ .json then noteLine noColor else ""
    match reportFor d s with
    | .error f => ⟨2, "", note ++ errorLine noColor f, none, d⟩
    | .ok r =>
      let stdout := printed noColor s.format r
      match s.output with
      | none => ⟨0, stdout, note, none, d⟩
      | some path =>
        match d.write path (Utf8.encode r.toJson.toList) with
        | .error e => ⟨1, stdout, note ++ errorLine noColor (.notWritten path e), none, d⟩
        | .ok d => ⟨0, stdout, note ++ savedLine noColor path, some (path, r.toJson), d⟩

def rules (d : Disk) (noColor : Bool) (format : Option String) : RunResult :=
  match builtinTable .substring with
  | .error f => ⟨2, "", errorLine noColor f, none, d⟩
  | .ok table =>
    let format := format.getD Format.human.label
    let text :=
      if format == Format.json.label then table.document.pretty ++ "\n"
      else Console.rules (usesColor format noColor) table
    ⟨0, text, "", none, d⟩

def usage : String :=
  "Usage: portdiag <COMMAND>\n\n" ++
  "Commands:\n" ++
  "  version                 Show version\n" ++
  "  analyze [OPTIONS] [ROOT]  Analyze a source tree\n" ++
  "  rules [--format <FORMAT>]  List detection rules\n" ++
  "  help [COMMAND]          Print help\n\n" ++
  "Options of analyze:\n" ++
  "  -o, --output <OUTPUT>         Also write the full JSON report to this path\n" ++
  "      --format <FORMAT>         Console format: human|json (default: human)\n" ++
  "      --exclude <EXCLUDE>       Glob of root-relative paths to skip (repeatable)\n" ++
  "      --match-mode <MATCH_MODE> Pattern matching: substring|word (default: substring)\n"

/-- What is printed when the arguments do not lead to a run. -/
def refusalText : Refusal → String
  | .help => usage
  | .version => "portdiag " ++ version ++ "\n"
  | .noCommand => usage
  | .unknownCommand => "error: unrecognized subcommand\n"
  | .unknownArgument => "error: unexpected argument found\n"
  | .missingValue => "error: a value is required for an option\n"
  | .needlessValue => "error: unexpected value for an option\n"
  | .repeatedOption => "error: an option cannot be used multiple times\n"

/-- The whole program. -/
def run (d : Disk) (noColor : Bool) (args : List String) : RunResult :=
  match Invocation.ofArguments args with
  | .error r =>
    let text := refusalText r
    if r.isAnswer then ⟨r.code, text, "", none, d⟩ else ⟨r.code, "", text, none, d⟩
  | .ok .version => ⟨0, version ++ "\n", "", none, d⟩
  | .ok (.rules format) => rules d noColor format
  | .ok (.analyze choices) => analyze d noColor choices

end Command

end Readiness
