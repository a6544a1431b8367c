import Orchestrator.Pack

/-!
Events: what packs report, both on their own account and as results of actions.
-/

namespace Orchestrator

/-- The identifying parts of a pack, as they were when an event was received. -/
structure PackRef where
  id : String
  name : String
  labels : Labels
  deriving DecidableEq, Repr, Inhabited

/-- A named occurrence reported by a pack. -/
structure Event where
  name : String
  pack : PackRef
  payload : Json
  /-- When the pack says that it happened, or else when it was received. -/
  created : Timestamp
  received : Timestamp
  deriving DecidableEq, Repr, Inhabited

namespace PackRef

def ofPack (p : Pack) : PackRef := ⟨p.id, p.name, p.labels⟩

def toJson (p : PackRef) : Json :=
  Json.object [("id", .str p.id), ("name", .str p.name), ("labels", .ofTexts p.labels)]

def read : Decoder PackRef :=
  open Decode in
  record "PackRef" <| (Fields.pure mk)
    |>.and (required "id" text)
    |>.and (required "name" text)
    |>.and (withDefault "labels" (dict text) ∅)

end PackRef

namespace Event

/-- The name of an event that reports a fatal outcome. -/
def fatalName : String := "FATAL"

/-- An event from a pack that is received now. -/
def new (name : String) (pack : Pack) (payload : Json) (created : Option Timestamp)
    (now : Timestamp) : Event :=
  ⟨name, .ofPack pack, payload, created.getD now, now⟩

/-- Whether the event reports a fatal outcome. -/
def isFatal (e : Event) : Bool := e.name == fatalName

/-- Whether the event has a name and comes from packs of a name. -/
def isFrom (e : Event) (packName name : String) : Bool := e.pack.name == packName && e.name == name

/-- The event as templates see it. -/
def view (e : Event) : Json :=
  Json.object [
    ("Name", .str e.name),
    ("Pack", Json.object [
      ("Id", .str e.pack.id),
      ("Name", .str e.pack.name),
      ("Labels", .ofTexts e.pack.labels)]),
    ("Payload", e.payload),
    ("Created", .str (Rfc3339.textInDigits e.created)),
    ("Received", .str (Rfc3339.textInDigits e.received))]

def toJson (e : Event) : Json :=
  Json.object [
    ("name", .str e.name),
    ("pack", e.pack.toJson),
    ("payload", e.payload),
    ("created", e.created.toJson),
    ("received", e.received.toJson)]

def read : Decoder Event :=
  open Decode in
  record "Event" <| (Fields.pure mk)
    |>.and (required "name" text)
    |>.and (required "pack" PackRef.read)
    |>.and (withDefault "payload" any .null)
    |>.and (required "created" time)
    |>.and (required "received" time)

end Event

end Orchestrator
