import Orchestrator.Error
import Orchestrator.Event
import Orchestrator.Uuid

/-!
Actions: commands that wait for a pack, are carried out by it and end with a result.

Every move is recorded in the history. An action also remembers the state that its last move left;
a store accepts the moved action only while it still holds that state. This memory is not part of
the document form.
-/

namespace Orchestrator

/-- The values that accompany a run of a flow, by key. -/
abbrev Context := Dict String

/-- A fresh identifier together with a clock reading. -/
structure Stamp where
  uuid : Uuid
  time : Timestamp
  deriving DecidableEq, Repr, Inhabited

/-- The fresh identifier as text. -/
def Stamp.id (s : Stamp) : String := s.uuid.text

/-- A command to be carried out for one step of one run of a flow. -/
structure Action where
  id : String
  /-- The name of the command. -/
  name : String
  packName : String
  packLabels : Labels
  input : Json
  state : StateRecord
  history : List StateRecord
  /-- Which run of the flow the action belongs to. -/
  correlationId : String
  flowUuid : Option Uuid
  flowName : String
  stepId : String
  context : Context
  /-- The event that made the step match. -/
  trigger : Event
  result : Option Event
  /-- The state that the last move left, as long as no store has accepted the move. -/
  previous : Option ActionState
  deriving DecidableEq, Repr, Inhabited

namespace Action

/-- A new action that belongs to no run yet. -/
def new (name packName : String) (packLabels : Labels) (input : Json) (trigger : Event)
    (stamp : Stamp) : Action :=
  let state : StateRecord := ⟨.new, stamp.time⟩
  { id := stamp.id, name, packName, packLabels, input, state, history := [state],
    correlationId := "", flowUuid := none, flowName := "", stepId := "", context := ∅, trigger,
    result := none, previous := none }

def hasFinished (a : Action) : Bool := a.state.value.isTerminal

/-- Moves to a state, where the lifecycle allows it. -/
def transition (a : Action) (target : ActionState) (now : Timestamp) : Except Error Action :=
  if a.state.value.canMoveTo target then
    let state : StateRecord := ⟨target, now⟩
    .ok { a with previous := some a.state.value, state, history := a.history ++ [state] }
  else .error (.illegalTransition a.id a.state.value target)

/-- Moves from new to pending. -/
def take (a : Action) (now : Timestamp) : Except Error Action := a.transition .pending now

/-- The state that a result leads to. -/
def outcome (result : Event) : ActionState := if result.isFatal then .fatal else .success

/-- Moves from pending to the state that the result leads to. -/
def complete (a : Action) (result : Event) (now : Timestamp) : Except Error Action :=
  (a.transition (outcome result) now).map fun moved => { moved with result := some result }

def toJson (a : Action) : Json :=
  Json.object <| [
    ("id", .str a.id),
    ("name", .str a.name),
    ("packName", .str a.packName),
    ("packLabels", .ofTexts a.packLabels),
    ("input", a.input),
    ("state", a.state.toJson),
    ("stateHistory", .arr (a.history.map StateRecord.toJson)),
    ("correlationId", .str a.correlationId),
    ("flowUuid", (a.flowUuid.map fun u => Json.str u.text).getD .null),
    ("flowName", .str a.flowName),
    ("stepId", .str a.stepId),
    ("context", .ofTexts a.context),
    ("trigger", a.trigger.toJson)]
    ++ (a.result.map fun e => ("result", e.toJson)).toList

/-- An action out of the fields of its document. -/
def ofDocument (id name packName : String) (packLabels : Labels) (input : Json)
    (state : StateRecord) (history : List StateRecord) (correlationId : String)
    (flowUuid : Option Uuid) (flowName stepId : String) (context : Context) (trigger : Event)
    (result : Option Event) : Action :=
  { id, name, packName, packLabels, input, state, history, correlationId, flowUuid, flowName,
    stepId, context, trigger, result, previous := none }

def read : Decoder Action :=
  open Decode in
  record "Action" <| (Fields.pure ofDocument)
    |>.and (required "id" text)
    |>.and (required "name" text)
    |>.and (required "packName" text)
    |>.and (withDefault "packLabels" (dict text) ∅)
    |>.and (withDefault "input" any .null)
    |>.and (required "state" StateRecord.read)
    |>.and (required "stateHistory" (list StateRecord.read))
    |>.and (required "correlationId" text)
    |>.and ⟨"flowUuid", [], .inObject none, optional uuid⟩
    |>.and (required "flowName" text)
    |>.and (required "stepId" text)
    |>.and (withDefault "context" (dict text) ∅)
    |>.and (required "trigger" Event.read)
    |>.and (withDefault "result" (optional Event.read) none)

end Action

end Orchestrator
