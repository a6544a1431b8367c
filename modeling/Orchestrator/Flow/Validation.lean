import Orchestrator.Flow.Definition
import Orchestrator.Text.Blank

/-!
What a flow has to satisfy before it is stored: it and its steps have names that are not blank, no
two steps share one, every step says what it waits for and what it commands, depends only on steps
of the flow, and at least one step depends on none.
-/

namespace Orchestrator

namespace FlowDefinition

open Cron (inQuotes)

/-- What is wrong with a step that comes after steps with the given identifiers. -/
def stepFlaw? (f : FlowDefinition) (earlier : List String) (s : Step) : Option String :=
  if Text.isBlankText s.id then some ("flow " ++ inQuotes f.name ++ " has a step without id")
  else if earlier.contains s.id then
    some ("flow " ++ inQuotes f.name ++ " has duplicate step id " ++ inQuotes s.id)
  else if s.event.packName.isEmpty || s.event.name.isEmpty then
    some ("step " ++ inQuotes s.id ++ " needs event.packName and event.name")
  else if s.command.packName.isEmpty || s.command.name.isEmpty then
    some ("step " ++ inQuotes s.id ++ " needs command.packName and command.name")
  else none

/-- The first flaw of the steps on their own, after steps with the given identifiers. -/
def stepsFlaw? (f : FlowDefinition) : List String → List Step → Option String
  | _, [] => none
  | earlier, s :: rest =>
    (f.stepFlaw? earlier s).or (f.stepsFlaw? (s.id :: earlier) rest)

/-- The identifiers of the steps. -/
def stepIds (f : FlowDefinition) : List String := f.steps.map (·.id)

/-- The first dependency of a step on a step that the flow does not have. -/
def dependencyFlaw? (f : FlowDefinition) (s : Step) : Option String :=
  (s.dependsOn.find? fun id => !f.stepIds.contains id).map fun missing =>
    "step " ++ inQuotes s.id ++ " depends on unknown step " ++ inQuotes missing

/-- The first flaw of a flow. -/
def flaw? (f : FlowDefinition) : Option String :=
  if Text.isBlankText f.name then some "flow name is required"
  else if f.steps.isEmpty then some ("flow " ++ inQuotes f.name ++ " has no steps")
  else
    (f.stepsFlaw? [] f.steps).or <|
    (f.steps.findSome? f.dependencyFlaw?).or <|
    if f.steps.any Step.isEntry then none
    else some ("flow " ++ inQuotes f.name ++ " has no entry step (every step has dependsOn)")

/-- Refuses a flow that has a flaw. -/
def validate (f : FlowDefinition) : Except Error Unit :=
  match f.flaw? with
  | none => .ok ()
  | some reason => .error (.invalidInput reason)

end FlowDefinition

end Orchestrator
