import Orchestrator.Evaluation
import Orchestrator.Flow.Instance

/-!
Moving a run of a flow forward by one event.

The steps to evaluate are chosen before the first of them is evaluated. A step that fails, or whose
action cannot be stored, does not keep the others from their turn. The store is only known by how an
action is added to it, so that any store will do.
-/

namespace Orchestrator

/-- What moving a run forward needs. -/
structure Engine (σ : Type) where
  mode : DependencyMode
  renderer : Renderer
  /-- Adds an action to a store, which may refuse it. -/
  add : σ → Action → Except Error Action × σ
  /-- The fresh identifier and the clock reading of each turn. -/
  stamp : Nat → Stamp

/-- A run on its way through the steps of one event. -/
structure Progress (σ : Type) where
  store : σ
  run : FlowInstance
  /-- The actions that were stored, in order. -/
  created : List Action
  /-- The number of the next turn. -/
  turn : Nat

namespace FlowInstance

/-- An action as one of the run. -/
def adopt (i : FlowInstance) (step : Step) (a : Action) : Action :=
  { a with
    correlationId := i.correlationId
    flowUuid := i.flow.uuid
    flowName := i.flow.name
    stepId := step.id }

/-- The steps to evaluate for an event, in the order of the flow. -/
def candidates (i : FlowInstance) (mode : DependencyMode) (event : Event) : List Step :=
  i.flow.steps.filter fun step => mode.isCandidate step i event

end FlowInstance

namespace Engine

variable {σ : Type}

/-- The turn of one step. -/
def takeTurn (e : Engine σ) (event : Event) (p : Progress σ) (step : Step) : Progress σ :=
  let next := { p with turn := p.turn + 1 }
  match step.evaluate e.renderer event p.run.context (e.stamp p.turn) with
  | .ok (some action) =>
    match e.add p.store (p.run.adopt step action) with
    | (.ok stored, store) =>
      { next with
        store
        run := { p.run with actions := p.run.actions.insert step.id stored }
        created := p.created ++ [stored] }
    | (.error _, store) => { next with store }
  | _ => next

/-- Moves a run forward by an event, from a turn on. -/
def process (e : Engine σ) (store : σ) (run : FlowInstance) (event : Event) (turn : Nat) :
    Progress σ :=
  (run.candidates e.mode event).foldl (e.takeTurn event) ⟨store, run, [], turn⟩

end Engine

end Orchestrator
