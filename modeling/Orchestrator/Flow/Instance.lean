import Orchestrator.Flow.Definition

/-!
Runs of flows. A run is not stored on its own: it is rebuilt from its actions, which all carry its
correlation identifier.
-/

namespace Orchestrator

/-- One run of a flow. -/
structure FlowInstance where
  flow : FlowDefinition
  correlationId : String
  context : Context
  /-- The action of each step that has been taken, by the step's identifier. -/
  actions : Dict Action
  deriving DecidableEq, Repr, Inhabited

/-- Which of the steps that a step depends on have to be finished before it. -/
inductive DependencyMode where
  | any
  | all
  deriving DecidableEq, Repr, Inhabited

namespace FlowInstance

/-- A run that begins. -/
def start (flow : FlowDefinition) (correlationId : String) : FlowInstance :=
  ⟨flow, correlationId, ∅, ∅⟩

/-- A run rebuilt from its actions. Of two actions of one step the later in the list stands, and the
store does not say which of them that is. -/
def resume (flow : FlowDefinition) (correlationId : String) (context : Context)
    (actions : List Action) : FlowInstance :=
  ⟨flow, correlationId, context, Dict.ofList (actions.map fun a => (a.stepId, a))⟩

def hasActionFor (i : FlowInstance) (stepId : String) : Bool := i.actions.contains stepId

/-- Whether a step has an action, and that action has finished. -/
def stepFinished (i : FlowInstance) (stepId : String) : Bool :=
  (i.actions.get? stepId).any Action.hasFinished

end FlowInstance

namespace DependencyMode

def text : DependencyMode → String
  | any => "any"
  | all => "all"

def choices : List (String × DependencyMode) := [any, all].map fun m => (m.text, m)

/-- Whether a step's dependencies are met in a run. -/
def satisfied (m : DependencyMode) (step : Step) (i : FlowInstance) : Bool :=
  step.dependsOn.isEmpty ||
    match m with
    | any => step.dependsOn.any i.stepFinished
    | all => step.dependsOn.all i.stepFinished

/-- Whether a step is to be evaluated for an event: it waits for it, has not been taken yet, and
its dependencies are met. -/
def isCandidate (m : DependencyMode) (step : Step) (i : FlowInstance) (event : Event) : Bool :=
  step.listensTo event && !i.hasActionFor step.id && m.satisfied step i

def toJson (m : DependencyMode) : Json := .str m.text

def read : Decoder DependencyMode := Decode.choice choices

end DependencyMode

end Orchestrator
