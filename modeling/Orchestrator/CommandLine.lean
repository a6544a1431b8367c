import Orchestrator.Settings
import Orchestrator.Dict

/-!
The command line of the service, and the environment that stands in for what it does not say.

Arguments are read from the left. A flag takes its value from behind an equals sign or from the next
argument, unless that begins with a hyphen. A value from the next argument is judged only when the
next flag or the end is reached, so what cannot be recognised is reported before it.
-/

namespace Orchestrator

/-- Why a command line is refused. -/
inductive UsageError where
  | unknownArgument (argument : String)
  | repeated (which : Setting)
  | missingValue (which : Setting)
  | needlessValue (flag : String)
  | refusedValue (which : Setting) (value : String) (fault : ValueFault)
  deriving DecidableEq, Repr, Inhabited

/-- What a command line asks for. -/
inductive Invocation where
  | run (settings : Settings)
  | help
  | version
  deriving DecidableEq, Repr, Inhabited

namespace UsageError

/-- The text of the error. -/
def message : UsageError → String
  | unknownArgument argument => "unexpected argument '" ++ argument ++ "'"
  | repeated which => "'--" ++ which.flag ++ "' cannot be used more than once"
  | missingValue which => "a value is needed for '--" ++ which.flag ++ "'"
  | needlessValue flag => "'--" ++ flag ++ "' takes no value"
  | refusedValue which value _ =>
    "invalid value '" ++ value ++ "' for '--" ++ which.flag ++ "'"

end UsageError

/-- A command line that is being read. -/
structure CommandLine where
  settings : Settings
  /-- What has been set. -/
  given : List Setting
  /-- The last flag, with its value if that has been reached, while it is not judged yet. -/
  waiting : Option (Setting × Option String)
  deriving DecidableEq, Repr, Inhabited

namespace CommandLine

def start : CommandLine := ⟨.default, [], none⟩

/-- Sets a value. -/
def set (c : CommandLine) (which : Setting) (value : String) : Except UsageError CommandLine :=
  match c.settings.set which value with
  | .ok settings => .ok { c with settings, given := which :: c.given }
  | .error fault => .error (.refusedValue which value fault)

/-- Sets a value that the command line gives, which it may do only once. -/
def give (c : CommandLine) (which : Setting) (value : String) : Except UsageError CommandLine :=
  if c.given.contains which then .error (.repeated which) else c.set which value

/-- Judges the flag that waits. -/
def judge (c : CommandLine) : Except UsageError CommandLine :=
  match c.waiting with
  | none => .ok c
  | some (which, none) => .error (.missingValue which)
  | some (which, some value) => { c with waiting := none }.give which value

/-- Sets from the environment what the command line has not given. -/
def consult (c : CommandLine) (environment : Dict String) : Except UsageError CommandLine :=
  let lookUp (c : CommandLine) (which : Setting) : Except UsageError CommandLine :=
    match environment.get? which.variableName with
    | some value => if c.given.contains which then .ok c else c.set which value
    | none => .ok c
  Setting.all.foldlM lookUp c

/-- The settings when all arguments have been read. -/
def finish (c : CommandLine) (environment : Dict String) : Except UsageError Invocation := do
  let c ← c.judge
  let c ← c.consult environment
  pure (.run c.settings)

/-- Stops to answer a question. -/
def ask (c : CommandLine) (question : Invocation) (flag : String) (value : Option String) :
    Except UsageError Invocation :=
  if value.isSome then .error (.needlessValue flag) else c.judge.map fun _ => question

/-- The kinds of arguments. -/
inductive Token where
  /-- A flag with two hyphens, and the value behind its equals sign. -/
  | long (name : String) (value : Option String)
  /-- A flag with one hyphen, of which only the first letter counts. -/
  | short (letter : Char)
  /-- The end of the flags. -/
  | stop
  | plain

/-- What an argument is. -/
def Token.ofText (argument : String) : Token :=
  match argument.toList with
  | ['-', '-'] => .stop
  | '-' :: '-' :: rest =>
    match Text.cutAt? '=' rest with
    | some (name, value) => .long (String.ofList name) (some (String.ofList value))
    | none => .long (String.ofList rest) none
  | '-' :: letter :: _ => .short letter
  | _ => .plain

/-- Reads the arguments from the left. -/
def scan (c : CommandLine) (environment : Dict String) :
    List String → Except UsageError Invocation
  | [] => c.finish environment
  | argument :: rest =>
    match Token.ofText argument with
    | .stop =>
      match rest with
      | [] => c.finish environment
      | stray :: _ => .error (.unknownArgument stray)
    | .long "help" value => c.ask .help "help" value
    | .long "version" value => c.ask .version "version" value
    | .short 'h' => c.ask .help "help" none
    | .short 'V' => c.ask .version "version" none
    | .short _ => .error (.unknownArgument argument)
    | .long name value =>
      match Setting.ofFlag? name, value with
      | none, _ => .error (.unknownArgument argument)
      | some which, some value => do
        let c ← c.judge
        let c ← c.give which value
        scan c environment rest
      | some which, none => do
        let c ← c.judge
        scan { c with waiting := some (which, none) } environment rest
    | .plain =>
      match c.waiting with
      | some (which, none) => scan { c with waiting := some (which, some argument) } environment rest
      | _ => .error (.unknownArgument argument)

/-- Reads a command line without the name of the program. -/
def parse (arguments : List String) (environment : Dict String) :
    Except UsageError Invocation :=
  start.scan environment arguments

/-- What the program says of its version. -/
def version : String := "packflow 0.1.0"

/-- What the program says of its command line. -/
def usage : String :=
  let line (which : Setting) : String :=
    "  --" ++ which.flag ++ " <VALUE>  (environment: " ++ which.variableName ++ ")"
  "\n".intercalate <|
    ["Usage: packflow [OPTIONS]", "", "Options:"] ++ Setting.all.map line ++
      ["  -h, --help", "  -V, --version"]

end CommandLine

end Orchestrator
