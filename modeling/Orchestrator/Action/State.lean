import Orchestrator.Time.Document

/-!
The lifecycle of actions: from new over pending to one of two terminal states.
-/

namespace Orchestrator

/-- Where an action is in its lifecycle. -/
inductive ActionState where
  | new
  | pending
  | success
  | fatal
  deriving DecidableEq, Repr, Inhabited

/-- A state and when it was entered. -/
structure StateRecord where
  value : ActionState
  time : Timestamp
  deriving DecidableEq, Repr, Inhabited

namespace ActionState

def text : ActionState → String
  | new => "NEW"
  | pending => "PENDING"
  | success => "SUCCESS"
  | fatal => "FATAL"

def all : List (String × ActionState) := [new, pending, success, fatal].map fun s => (s.text, s)

def isTerminal : ActionState → Bool
  | success | fatal => true
  | new | pending => false

/-- Whether the lifecycle has a move between two states. -/
def canMoveTo : ActionState → ActionState → Bool
  | new, pending | pending, success | pending, fatal => true
  | _, _ => false

def toJson (s : ActionState) : Json := .str s.text

def read : Decoder ActionState := Decode.choice all

end ActionState

namespace StateRecord

def toJson (r : StateRecord) : Json :=
  Json.object [("value", r.value.toJson), ("time", r.time.toJson)]

def read : Decoder StateRecord :=
  open Decode in
  record "StateRecord" <| (Fields.pure mk)
    |>.and (required "value" ActionState.read)
    |>.and (required "time" Decode.time)

end StateRecord

end Orchestrator
