import Orchestrator.Labels
import Orchestrator.Time.Document
import Orchestrator.Digest.Sha256
import Orchestrator.Text.Utf8

/-!
Packs: the workers that publish events and carry out commands.

A pack is told apart by its name and labels, from which its identifier is derived. Name, keys and
values are each written with their length in front, so that no two packs share the digested bytes.
-/

namespace Orchestrator

/-- A command that a pack carries out, with the results it may report. -/
structure PackCommand where
  name : String
  results : List String
  deriving DecidableEq, Repr, Inhabited

/-- How recently a pack was seen. -/
inductive PackStatus where
  | live
  | warning
  | critical
  deriving DecidableEq, Repr, Inhabited

/-- A registered pack. -/
structure Pack where
  id : String
  name : String
  labels : Labels
  commands : List PackCommand
  /-- The names of the events that the pack publishes. -/
  events : List String
  lastSeen : Timestamp
  deriving DecidableEq, Repr, Inhabited

namespace PackStatus

def text : PackStatus → String
  | live => "live"
  | warning => "warning"
  | critical => "critical"

def all : List (String × PackStatus) := [live, warning, critical].map fun s => (s.text, s)

/-- The status at `now` of a pack that was last seen at `lastSeen`. -/
def ofLastSeen (lastSeen now : Timestamp) : PackStatus :=
  let age := now.nanosSince lastSeen
  if age < 10 * 60 * nanosPerSecond then live
  else if age < 24 * 60 * 60 * nanosPerSecond then warning
  else critical

def toJson (s : PackStatus) : Json := .str s.text

def read : Decoder PackStatus := Decode.choice all

end PackStatus

namespace PackCommand

def toJson (c : PackCommand) : Json :=
  Json.object [("name", .str c.name), ("results", .strings c.results)]

def read : Decoder PackCommand :=
  open Decode in
  record "PackCommand" <| (Fields.pure mk)
    |>.and (required "name" text)
    |>.and (withDefault "results" (list text) [])

end PackCommand

namespace Pack

/-- A text in its digested form: its length in eight bytes, and its bytes. -/
def framed (s : String) : List UInt8 :=
  let bytes := Utf8.octets s
  Sha256.bigEndian 8 bytes.length ++ bytes

/-- The bytes that identify a pack: its name, and its labels in key order. -/
def identity (name : String) (labels : Labels) : List UInt8 :=
  framed name ++ labels.toList.flatMap fun (key, value) => framed key ++ framed value

/-- The identifier of a pack. -/
def deriveId (name : String) (labels : Labels) : String :=
  Sha256.hexDigest (identity name labels)

/-- A pack with the given identity that is seen now. -/
def new (name : String) (labels : Labels) (now : Timestamp) : Pack :=
  ⟨deriveId name labels, name, labels, [], [], now⟩

/-- The pack under the identifier of its name and labels. -/
def refreshId (p : Pack) : Pack := { p with id := deriveId p.name p.labels }

/-- The status of the pack at `now`. -/
def status (p : Pack) (now : Timestamp) : PackStatus := .ofLastSeen p.lastSeen now

/-- Whether the pack may carry out a command addressed to packs of a name and a selector. -/
def serves (p : Pack) (packName : String) (selector : Labels) : Bool :=
  p.name == packName && selector.fits p.labels

def toJson (p : Pack) : Json :=
  Json.object [
    ("id", .str p.id),
    ("name", .str p.name),
    ("labels", .ofTexts p.labels),
    ("commands", .arr (p.commands.map PackCommand.toJson)),
    ("events", .strings p.events),
    ("lastSeen", p.lastSeen.toJson)]

def read : Decoder Pack :=
  open Decode in
  record "Pack" <| (Fields.pure mk)
    |>.and (required "id" text)
    |>.and (required "name" text)
    |>.and (withDefault "labels" (dict text) ∅)
    |>.and (withDefault "commands" (list PackCommand.read) [])
    |>.and (withDefault "events" (list text) [])
    |>.and (required "lastSeen" time)

end Pack

end Orchestrator
