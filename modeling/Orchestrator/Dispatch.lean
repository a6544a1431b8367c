import Orchestrator.Flow.Progress
import Orchestrator.Store.Action
import Orchestrator.Store.Flow

/-!
Finding the runs that an event or a finished action moves forward.

An event starts a run of every flow that it enters. The result of a finished action moves on the run
that the action belongs to, in the version of the flow that the run began with.
-/

namespace Orchestrator

/-- A run together with the event that is to move it forward. -/
structure Assignment where
  run : FlowInstance
  event : Event
  deriving DecidableEq, Repr, Inhabited

namespace Dispatch

/-- The new runs that an event starts. -/
def start (flows : FlowStore) (event : Event) (fresh : Nat → String) : List Assignment :=
  let entered := flows.findByEvent event
  (entered.zip (List.range entered.length)).map fun (flow, i) =>
    ⟨FlowInstance.start flow (fresh i), event⟩

/-- The run that the result of an action moves on. There is none if the action has no result or
belongs to no known flow. -/
def resume (flows : FlowStore) (actions : ActionStore) (a : Action) : Option Assignment := do
  let result ← a.result
  let uuid ← a.flowUuid
  let flow ← flows.getByUuid? uuid
  let correlated := actions.findCorrelated a.correlationId
  pure ⟨FlowInstance.resume flow a.correlationId a.context correlated, result⟩

end Dispatch

end Orchestrator
