import Orchestrator.CommandLine
import Orchestrator.Server

/-!
The program: it reads the command line and the environment, and serves.
-/

namespace Orchestrator

/-- What the environment says of the settings. -/
def environment : IO (Dict String) :=
  Setting.all.foldlM (fun found which => do
    match ← IO.getEnv which.variableName with
    | some value => return found.insert which.variableName value
    | none => return found) ∅

/-- Does what the command line asks for, and gives the code with which the program ends. -/
def obey : Except UsageError Invocation → IO UInt32
  | .ok (.run settings) => do
    Server.run settings
    return 0
  | .ok .help => do
    IO.println CommandLine.usage
    return 0
  | .ok .version => do
    IO.println CommandLine.version
    return 0
  | .error e => do
    IO.eprintln ("error: " ++ e.message)
    return 2

end Orchestrator

def main (arguments : List String) : IO UInt32 := do
  Orchestrator.obey (Orchestrator.CommandLine.parse arguments (← Orchestrator.environment))
