import Traceability.Report.Status

/-!
Contract: the arguments of the program.

Arguments are looked at from left to right, and the first that asks for help or
for the version, or makes no sense, ends it. Options of the program itself may
also follow the command; there they take precedence.

Owns: which arguments are understood, and what they ask for.
Does not own: carrying it out.
-/

namespace Traceability.CommandLine

inductive Command where
  | status
  | validate
deriving DecidableEq, Repr

/-- What a command line asks for. -/
structure Request where
  command : Command
  /-- The directory of the root module, as given. -/
  root : String
  /-- Whether nothing is to be filtered, whatever the settings say. -/
  noFilter : Bool
  format : OutputFormat
  quiet : Bool
deriving DecidableEq, Repr

/-- Why a command line asks for no report. -/
inductive Halt where
  | help
  | version
  /-- The arguments make no sense. -/
  | misuse
deriving DecidableEq, Repr

/-- What an option says. -/
inductive Switch where
  | root
  | verbose
  | help
  | version
  | noFilter
  | output
  | quiet
deriving DecidableEq, Repr

/-- Whether the option takes a value. -/
def Switch.takesValue : Switch → Bool
  | .root | .output => true
  | _ => false

/-- The option with a long name, after the command or before there is one. -/
def longSwitch? (command : Option Command) (name : String) : Option Switch :=
  match name, command with
  | "root", _ => some .root
  | "verbose", _ => some .verbose
  | "help", _ => some .help
  | "version", none => some .version
  | "no-filter", some _ => some .noFilter
  | "output", some _ => some .output
  | "quiet", some _ => some .quiet
  | _, _ => none

/-- The option with a short name, after the command or before there is one. -/
def shortSwitch? (command : Option Command) (name : Char) : Option Switch :=
  match name, command with
  | 'r', _ => some .root
  | 'v', _ => some .verbose
  | 'h', _ => some .help
  | 'V', none => some .version
  | 'q', some .validate => some .quiet
  | _, _ => none

/-- What the arguments up to some point say. -/
structure Progress where
  command : Option Command
  /-- The root that was given before the command. -/
  outerRoot : Option String
  /-- The root that was given after the command. -/
  innerRoot : Option String
  noFilter : Bool
  format : Option OutputFormat
  quiet : Bool
deriving DecidableEq, Repr

def Progress.start : Progress := ⟨none, none, none, false, none, false⟩

def formatNamed? : String → Option OutputFormat
  | "table" => some .table
  | "json" => some .json
  | _ => none

/-- Takes an option into account. All but the one for verbosity may be given
once, and a root must not be empty. Verbosity changes no report. -/
def Progress.apply (progress : Progress) (option : Switch) (value : String) :
    Except Halt Progress :=
  match option with
  | .help => .error .help
  | .version => .error .version
  | .verbose => .ok progress
  | .noFilter =>
      if progress.noFilter then .error .misuse else .ok { progress with noFilter := true }
  | .quiet => if progress.quiet then .error .misuse else .ok { progress with quiet := true }
  | .output =>
      match formatNamed? value with
      | none => .error .misuse
      | some format =>
          if progress.format.isSome then .error .misuse
          else .ok { progress with format := some format }
  | .root =>
      if value.isEmpty then .error .misuse
      else if progress.command.isSome then
        if progress.innerRoot.isSome then .error .misuse
        else .ok { progress with innerRoot := some value }
      else if progress.outerRoot.isSome then .error .misuse
      else .ok { progress with outerRoot := some value }

/-- What a single argument amounts to. -/
inductive Step where
  /-- All has been said. -/
  | done (progress : Progress)
  /-- The next argument is the value of an option. -/
  | awaits (progress : Progress) (option : Switch)

/-- A text without the equality sign it may begin with. -/
def dropEquals : List Char → List Char
  | '=' :: rest => rest
  | chars => chars

/-- Options with short names, after the hyphen. What follows one that takes a
value is its value. -/
def shortStep (progress : Progress) : List Char → Except Halt Step
  | [] => .ok (.done progress)
  | name :: rest =>
      match shortSwitch? progress.command name with
      | none => .error .misuse
      | some option =>
          if option.takesValue then
            if rest.isEmpty then .ok (.awaits progress option)
            else (progress.apply option (String.ofList (dropEquals rest))).map .done
          else
            match progress.apply option "" with
            | .error halt => .error halt
            | .ok progress => shortStep progress rest

/-- An option with a long name, after the hyphens. -/
def longStep (progress : Progress) (text : List Char) : Except Halt Step :=
  let value := text.dropWhile (· ≠ '=')
  match longSwitch? progress.command (String.ofList (text.takeWhile (· ≠ '='))) with
  | none => .error .misuse
  | some option =>
      match option.takesValue, value with
      | true, [] => .ok (.awaits progress option)
      | true, _ :: value => (progress.apply option (String.ofList value)).map .done
      | false, [] => (progress.apply option "").map .done
      | false, _ :: _ => .error .misuse

/-- Whether an argument that should be a value is an option instead. A lone
hyphen is a value. -/
def isOption (argument : String) : Bool := argument.startsWith "-" && argument ≠ "-"

/-- The command with a name. -/
def commandNamed? : String → Option Command
  | "status" => some .status
  | "validate" => some .validate
  | _ => none

/-- Why a request for help ends the program. What help is wanted on has to be a
command. -/
def helpOn : List String → Halt
  | [] | ["status"] | ["validate"] | ["help"] => .help
  | _ => .misuse

/-- What an argument amounts to that is no value of an option. Two hyphens end
the options, and nothing may come after. -/
def argumentStep (progress : Progress) (argument : String) (rest : List String) :
    Except Halt Step :=
  match argument.toList with
  | ['-', '-'] => if rest.isEmpty then .ok (.done progress) else .error .misuse
  | '-' :: '-' :: text => longStep progress text
  | '-' :: first :: others => shortStep progress (first :: others)
  | _ =>
      match progress.command, commandNamed? argument with
      | none, some command => .ok (.done { progress with command := some command })
      | none, none => .error (if argument = "help" then helpOn rest else .misuse)
      | some _, _ => .error .misuse

/-- Takes all arguments into account. `awaiting` is the option whose value comes
next. -/
def readAll (progress : Progress) (awaiting : Option Switch) :
    List String → Except Halt Progress
  | [] => if awaiting.isSome then .error .misuse else .ok progress
  | argument :: rest =>
      match awaiting with
      | some option =>
          if isOption argument then .error .misuse
          else
            match progress.apply option argument with
            | .error halt => .error halt
            | .ok progress => readAll progress none rest
      | none =>
          match argumentStep progress argument rest with
          | .error halt => .error halt
          | .ok (.done progress) => readAll progress none rest
          | .ok (.awaits progress option) => readAll progress (some option) rest

/-- What a command line asks for. Without a command it asks for the status, and
without a root for that of the current directory. -/
def read (arguments : List String) : Except Halt Request := do
  let progress ← readAll .start none arguments
  return {
    command := progress.command.getD .status
    root := (progress.innerRoot.or progress.outerRoot).getD "."
    noFilter := progress.noFilter
    format := progress.format.getD .table
    quiet := progress.quiet }

end Traceability.CommandLine
