import Readiness.Settings.Effective

/-!
# Command lines

The arguments of the program: a command, and the options and the folder that it takes.

* `Invocation.ofArguments` reads the arguments or says why they are refused.

Options are written `--name value`, `--name=value`, `-n value`, `-nvalue` or `-n=value`. A value
that is an argument of its own does not begin with a hyphen, unless it is the hyphen alone. After
`--` all arguments stand for themselves.
-/

namespace Readiness

/-- Why arguments do not lead to a run. -/
inductive Refusal where
  /-- Help is asked for. -/
  | help
  /-- The version is asked for. -/
  | version
  /-- There is no command. -/
  | noCommand
  /-- There is no such command. -/
  | unknownCommand
  /-- There is no such option, or an argument too many. -/
  | unknownArgument
  /-- An option has no value. -/
  | missingValue
  /-- An option that takes no value has one. -/
  | needlessValue
  /-- An option is given twice. -/
  | repeatedOption
  deriving DecidableEq

namespace Refusal

/-- Whether the refusal answers a question, as opposed to reporting a mistake. -/
def isAnswer : Refusal → Bool
  | .help => true
  | .version => true
  | _ => false

def code (r : Refusal) : Nat := if r.isAnswer then 0 else 2

end Refusal

/-- What the program is asked to do. -/
inductive Invocation where
  | version
  | rules (format : Option String)
  | analyze (choices : Choices)

/-- The options that take a value. -/
inductive ValueOption where
  | output
  | format
  | exclude
  | matchMode
  deriving DecidableEq

namespace ValueOption

def long? : String → Option ValueOption
  | "output" => some .output
  | "format" => some .format
  | "exclude" => some .exclude
  | "match-mode" => some .matchMode
  | _ => none

def short? : Char → Option ValueOption
  | 'o' => some .output
  | _ => none

/-- Whether the option may be given more than once. -/
def isRepeatable : ValueOption → Bool
  | .exclude => true
  | _ => false

end ValueOption

/-- What a command takes. -/
structure Signature where
  options : List ValueOption
  takesFolder : Bool

/-- What has been read of the arguments of a command. -/
structure Reading where
  /-- The options with their values, in the order of the arguments. -/
  values : List (ValueOption × String)
  folder : Option String
  /-- The last option, which is not yet settled, with its value if there is one. -/
  pending : Option (ValueOption × Option String)
  /-- Whether all further arguments stand for themselves. -/
  verbatim : Bool

namespace Reading

def start : Reading := ⟨[], none, none, false⟩

def add (r : Reading) (o : ValueOption) (value : String) : Except Refusal Reading :=
  if !o.isRepeatable && (r.values.map (·.1)).contains o then .error .repeatedOption
  else .ok { r with values := r.values ++ [(o, value)] }

def settle (r : Reading) : Except Refusal Reading :=
  match r.pending with
  | none => .ok r
  | some (_, none) => .error .missingValue
  | some (o, some value) => { r with pending := none }.add o value

/-- An option with the value that is attached to it, if there is one. -/
def option (r : Reading) (o : ValueOption) (attached : Option String) : Except Refusal Reading := do
  let r ← r.settle
  match attached with
  | some value => r.add o value
  | none => .ok { r with pending := some (o, none) }

/-- An argument that asks for help, once the last option is settled. -/
def help (r : Reading) : Except Refusal Reading := do
  let _ ← r.settle
  .error .help

def long (sig : Signature) (r : Reading) (cs : List Char) : Except Refusal Reading :=
  let name := String.ofList (cs.takeWhile (· != '='))
  let attached := match cs.dropWhile (· != '=') with
    | [] => none
    | _ :: value => some (String.ofList value)
  if name == "help" then
    if attached.isSome then .error .needlessValue else r.help
  else match (ValueOption.long? name).filter sig.options.contains with
    | some o => r.option o attached
    | none => .error .unknownArgument

def short (sig : Signature) (r : Reading) : List Char → Except Refusal Reading
  | [] => .ok r
  | c :: cs =>
    if c == 'h' then r.help
    else match (ValueOption.short? c).filter sig.options.contains with
      | some o =>
        r.option o <| match cs with
          | [] => none
          | '=' :: value => some (String.ofList value)
          | value => some (String.ofList value)
      | none => .error .unknownArgument

/-- An argument that stands for itself and is no value of an option. -/
def plain (sig : Signature) (r : Reading) (argument : String) : Except Refusal Reading :=
  if sig.takesFolder && r.folder.isNone then do
    let r ← r.settle
    .ok { r with folder := some argument }
  else .error .unknownArgument

def argument (sig : Signature) (r : Reading) (a : String) : Except Refusal Reading :=
  if r.verbatim then r.plain sig a
  else match a.toList with
    | ['-', '-'] => .ok { r with verbatim := true }
    | '-' :: '-' :: cs => r.long sig cs
    | '-' :: c :: cs => r.short sig (c :: cs)
    | _ =>
      match r.pending with
      | some (o, none) => .ok { r with pending := some (o, some a) }
      | _ => r.plain sig a

def ofArguments (sig : Signature) (args : List String) : Except Refusal Reading := do
  let r ← args.foldlM (argument sig) start
  r.settle

def valuesOf (r : Reading) (o : ValueOption) : List String :=
  (r.values.filter (·.1 = o)).map (·.2)

end Reading

namespace Invocation

/-- Reads the arguments of a command by its name. -/
def command? (name : String) (args : List String) : Option (Except Refusal Invocation) :=
  match name with
  | "version" => some do
    let _ ← Reading.ofArguments ⟨[], false⟩ args
    .ok .version
  | "rules" => some do
    let r ← Reading.ofArguments ⟨[.format], false⟩ args
    .ok (.rules (r.valuesOf .format).head?)
  | "analyze" => some do
    let r ← Reading.ofArguments ⟨[.output, .format, .exclude, .matchMode], true⟩ args
    .ok (.analyze {
      root := r.folder
      output := (r.valuesOf .output).head?
      format := (r.valuesOf .format).head?
      exclude := r.valuesOf .exclude
      matchMode := (r.valuesOf .matchMode).head? })
  | "help" => some (.error (help args))
  | _ => none
where
  /-- The answer to a question for help: the topic must be a command. -/
  help : List String → Refusal
    | [] => .help
    | [topic] => if commands.contains topic then .help else .unknownCommand
    | _ => .unknownCommand
  /-- The names of the commands. -/
  commands : List String := ["version", "analyze", "rules", "help"]

/-- Reads an argument that stands where the command should be. -/
def flag (a : String) : Refusal :=
  match a.toList with
  | '-' :: '-' :: cs =>
    let name := cs.takeWhile (· != '=')
    let answer (r : Refusal) := if cs.contains '=' then .needlessValue else r
    if name == "help".toList then answer .help
    else if name == "version".toList then answer .version
    else .unknownArgument
  | '-' :: 'h' :: _ => .help
  | '-' :: 'V' :: _ => .version
  | '-' :: _ :: _ => .unknownArgument
  | _ => .unknownCommand

def ofArguments : List String → Except Refusal Invocation
  | [] => .error .noCommand
  | "--" :: [] => .error .noCommand
  | "--" :: a :: _ =>
    .error (if (command? a []).isSome then .unknownArgument else .unknownCommand)
  | a :: args => (command? a args).getD (.error (flag a))

end Invocation

end Readiness
