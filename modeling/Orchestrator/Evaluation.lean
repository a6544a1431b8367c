import Orchestrator.Flow.Definition
import Orchestrator.Resolve

/-!
Deciding whether a step turns an event into an action.

Templates are rendered in stages: the step's context, then the labels it asks for, then its
criteria, then the command. A stage is reached only if the ones before let the event pass.
-/

namespace Orchestrator

namespace Step

/-- Marks what failed in a stage of a step's evaluation. -/
def atStage {α : Type} (step : Step) (stage : Stage) (result : Except ResolveError α) :
    Except EvaluationError α :=
  result.mapError fun cause => ⟨stage, step.id, cause⟩

/-- The context of a run with what the step adds to it. -/
def widenContext (r : Renderer) (step : Step) (event : Event) (parent : Context) :
    Except ResolveError Context :=
  (r.resolveMap (templateDocument event parent) step.context).map fun added =>
    parent.override added

/-- Whether the criteria hold; blank ones always do. -/
def meetsCriteria (r : Renderer) (step : Step) (document : Json) : Except ResolveError Bool :=
  if Text.isBlankText step.criteria then .ok true
  else r.resolveBool document step.criteria

/-- The selector and the input of the step's command. -/
def commandParts (r : Renderer) (step : Step) (document : Json) :
    Except ResolveError (Labels × Json) := do
  let labels ← r.resolveMap document step.command.packLabels
  let input ← r.resolve document step.command.input
  pure (labels, input)

/-- The action that a step gives for an event in a context, if the event passes the step. -/
def evaluate (r : Renderer) (step : Step) (event : Event) (parent : Context) (stamp : Stamp) :
    Except EvaluationError (Option Action) := do
  let context ← step.atStage .context (step.widenContext r event parent)
  if !step.listensTo event then return none
  let document := templateDocument event context
  let selector ← step.atStage .labels (r.resolveMap document step.event.packLabels)
  if !Labels.fits selector event.pack.labels then return none
  let isMet ← step.atStage .criteria (step.meetsCriteria r document)
  if !isMet then return none
  let (labels, input) ← step.atStage .command (step.commandParts r document)
  let action := Action.new step.command.name step.command.packName labels input event stamp
  return some { action with context, stepId := step.id }

end Step

end Orchestrator
