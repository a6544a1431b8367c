import Orchestrator.Action.State
import Orchestrator.Template.Fault

/-!
The errors of the orchestrator and their texts.
-/

namespace Orchestrator

open Cron (inQuotes)

/-- Why a text with templates could not be resolved. -/
inductive ResolveError where
  | render (template : String) (fault : Template.Fault)
  | notBoolean (template value : String)
  deriving DecidableEq, Repr, Inhabited

def ResolveError.message : ResolveError → String
  | render template fault => "failed to render " ++ inQuotes template ++ ": " ++ fault.message
  | notBoolean template value =>
    inQuotes template ++ " rendered to " ++ inQuotes value ++ ", which is not a boolean"

/-- The stages of evaluating a step in which templates are resolved. -/
inductive Stage where
  | context
  | labels
  | criteria
  | command
  deriving DecidableEq, Repr, Inhabited

/-- What failed in a stage. -/
def Stage.failure : Stage → String
  | context => "context resolution failed"
  | labels => "event label resolution failed"
  | criteria => "criteria evaluation failed"
  | command => "command resolution failed"

/-- Why a step could not be evaluated. -/
structure EvaluationError where
  stage : Stage
  step : String
  cause : ResolveError
  deriving DecidableEq, Repr, Inhabited

def EvaluationError.message (e : EvaluationError) : String :=
  "step " ++ inQuotes e.step ++ ": " ++ e.stage.failure ++ ": " ++ e.cause.message

/-- Why an operation of the orchestrator failed. -/
inductive Error where
  /-- A move that the lifecycle forbids, or one that another writer has forestalled. -/
  | illegalTransition (id : String) (source target : ActionState)
  | packNotFound (id : String)
  | flowNotFound (name : String)
  | actionNotFound (id : String)
  | notFound (what : String)
  | alreadyExists (what : String)
  | invalidInput (reason : String)
  | template (cause : ResolveError)
  | evaluation (cause : EvaluationError)
  | storage (reason : String)
  | serialization (reason : String)
  | internal (reason : String)
  deriving DecidableEq, Repr, Inhabited

def Error.message : Error → String
  | illegalTransition id source target =>
    "Illegal state transition for action " ++ id ++ ": " ++ source.text ++ " -> " ++ target.text
  | packNotFound id => "Pack not found: " ++ id
  | flowNotFound name => "Flow not found: " ++ name
  | actionNotFound id => "Action not found: " ++ id
  | notFound what => "Not found: " ++ what
  | alreadyExists what => "Already exists: " ++ what
  | invalidInput reason => "Invalid input: " ++ reason
  | template cause => "Template error: " ++ cause.message
  | evaluation cause => "Step evaluation failed: " ++ cause.message
  | storage reason => "Storage error: " ++ reason
  | serialization reason => "Serialization error: " ++ reason
  | internal reason => "Internal error: " ++ reason

/-- Whether the error says that something does not exist. -/
def Error.isNotFound : Error → Bool
  | packNotFound _ | flowNotFound _ | actionNotFound _ | notFound _ => true
  | _ => false

end Orchestrator
