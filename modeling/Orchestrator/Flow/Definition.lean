import Orchestrator.Action

/-!
Flows: rules that turn an event from one pack into a command for another.
-/

namespace Orchestrator

/-- The event that a step waits for. -/
structure EventTrigger where
  packName : String
  name : String
  /-- A selector whose values are templates. -/
  packLabels : Labels
  deriving DecidableEq, Repr, Inhabited

/-- The command that a step gives. -/
structure CommandSpec where
  packName : String
  name : String
  /-- A selector whose values are templates. -/
  packLabels : Labels
  /-- The input, every text in which is a template. -/
  input : Json
  deriving DecidableEq, Repr, Inhabited

/-- One rule of a flow. -/
structure Step where
  id : String
  /-- The steps that come before this one. -/
  dependsOn : List String
  event : EventTrigger
  /-- A template that has to give a boolean; a blank one always holds. -/
  criteria : String
  /-- Templates for the values that the step adds to the context. -/
  context : Context
  command : CommandSpec
  deriving DecidableEq, Repr, Inhabited

/-- A set of rules with a name. -/
structure FlowDefinition where
  name : String
  /-- Which version of the flow this is. -/
  uuid : Option Uuid
  description : String
  steps : List Step
  deriving DecidableEq, Repr, Inhabited

/-- What listings show of a flow. -/
structure FlowSummary where
  name : String
  description : String
  deriving DecidableEq, Repr, Inhabited

namespace EventTrigger

def toJson (t : EventTrigger) : Json :=
  Json.object <| [("packName", .str t.packName), ("name", .str t.name)]
    ++ (if t.packLabels.isEmpty then [] else [("packLabels", .ofTexts t.packLabels)])

def read : Decoder EventTrigger :=
  open Decode in
  record "EventTrigger" <| (Fields.pure mk)
    |>.and (required "packName" text)
    |>.and (required "name" text)
    |>.and (withDefault "packLabels" (dict text) ∅)

end EventTrigger

namespace CommandSpec

def toJson (c : CommandSpec) : Json :=
  Json.object <| [("packName", .str c.packName), ("name", .str c.name), ("input", c.input)]
    ++ (if c.packLabels.isEmpty then [] else [("packLabels", .ofTexts c.packLabels)])

def read : Decoder CommandSpec :=
  open Decode in
  record "CommandSpec" <| (Fields.pure mk)
    |>.and (required "packName" text)
    |>.and (required "name" text)
    |>.and (withDefault "packLabels" (dict text) ∅)
    |>.and (withDefault "input" any .null)

end CommandSpec

namespace Step

/-- Whether the step can begin a run. -/
def isEntry (s : Step) : Bool := s.dependsOn.isEmpty

/-- Whether the step waits for events of this name and origin. -/
def listensTo (s : Step) (event : Event) : Bool := event.isFrom s.event.packName s.event.name

def toJson (s : Step) : Json :=
  Json.object <| [("id", .str s.id), ("event", s.event.toJson), ("command", s.command.toJson)]
    ++ (if s.dependsOn.isEmpty then [] else [("dependsOn", .strings s.dependsOn)])
    ++ (if s.criteria.isEmpty then [] else [("criteria", .str s.criteria)])
    ++ (if s.context.isEmpty then [] else [("context", .ofTexts s.context)])

def read : Decoder Step :=
  open Decode in
  record "Step" <| (Fields.pure mk)
    |>.and (required "id" text)
    |>.and (withDefault "dependsOn" (list text) [])
    |>.and (required "event" EventTrigger.read)
    |>.and (withDefault "criteria" text "")
    |>.and (withDefault "context" (dict text) ∅)
    |>.and (required "command" CommandSpec.read)

end Step

namespace FlowSummary

def toJson (s : FlowSummary) : Json :=
  Json.object [("name", .str s.name), ("description", .str s.description)]

def read : Decoder FlowSummary :=
  open Decode in
  record "FlowSummary" <| (Fields.pure mk)
    |>.and (required "name" text)
    |>.and (required "description" text)

end FlowSummary

namespace FlowDefinition

/-- The first step with an identifier. -/
def step? (f : FlowDefinition) (id : String) : Option Step := f.steps.find? (·.id == id)

/-- Whether a step that can begin a run waits for the event. -/
def isEnteredBy (f : FlowDefinition) (event : Event) : Bool :=
  f.steps.any fun step => step.isEntry && step.listensTo event

def summary (f : FlowDefinition) : FlowSummary := ⟨f.name, f.description⟩

def toJson (f : FlowDefinition) : Json :=
  Json.object <| [("name", .str f.name), ("description", .str f.description),
      ("steps", .arr (f.steps.map Step.toJson))]
    ++ (f.uuid.map fun u => ("uuid", Json.str u.text)).toList

def read : Decoder FlowDefinition :=
  open Decode in
  record "FlowDefinition" <| (Fields.pure mk)
    |>.and (required "name" text)
    |>.and (withDefault "uuid" (optional Decode.uuid) none)
    |>.and (withDefault "description" text "")
    |>.and (required "steps" (list Step.read))

end FlowDefinition

end Orchestrator
