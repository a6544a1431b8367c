import Orchestrator.Api.Failure
import Orchestrator.Event
import Orchestrator.Text.Blank

/-!
What clients send: the registration of a pack, an event or a result, and the question for an action.
-/

namespace Orchestrator

/-- The registration of a pack. -/
structure PackRegistration where
  name : String
  labels : Labels
  commands : List PackCommand
  events : List String
  deriving DecidableEq, Repr, Inhabited

/-- An event as a pack sends it, on its own account or as the result of an action. -/
structure EventMessage where
  name : String
  payload : Json
  created : Option Timestamp
  deriving DecidableEq, Repr, Inhabited

/-- Which command a pack asks an action for, if it minds. -/
structure TakeQuery where
  actionName : Option String
  deriving DecidableEq, Repr, Inhabited

namespace PackRegistration

def read : Decoder PackRegistration :=
  open Decode in
  record "RegisterPackRequest" <| (Fields.pure mk)
    |>.and (required "name" text)
    |>.and (withDefault "labels" (dict text) ∅)
    |>.and (withDefault "commands" (list PackCommand.read) [])
    |>.and (withDefault "events" (list text) [])

/-- The pack that is to be registered. -/
def toPack (r : PackRegistration) (now : Timestamp) : Except Failure Pack :=
  if Text.isBlankText r.name then .error (.badRequest "pack name is required")
  else .ok { Pack.new r.name r.labels now with commands := r.commands, events := r.events }

end PackRegistration

namespace EventMessage

def read : Decoder EventMessage :=
  open Decode in
  record "EventRequest" <| (Fields.pure mk)
    |>.and ⟨"event", ["name"], .required, text⟩
    |>.and (withDefault "payload" any .null)
    |>.and (withDefault "created" (optional time) none)

/-- Refuses a message whose event has no name. -/
def validate (m : EventMessage) : Except Failure Unit :=
  if Text.isBlankText m.name then .error (.badRequest "event name is required") else .ok ()

/-- The event of a message from a pack that is received now. -/
def toEvent (m : EventMessage) (pack : Pack) (now : Timestamp) : Except Failure Event :=
  m.validate.map fun _ => Event.new m.name pack m.payload m.created now

end EventMessage

namespace TakeQuery

def read : Decoder TakeQuery :=
  open Decode in
  record "TakeQuery" <| (Fields.pure mk)
    |>.and ⟨"actionName", [], .inObject none, optional text⟩

end TakeQuery

end Orchestrator
