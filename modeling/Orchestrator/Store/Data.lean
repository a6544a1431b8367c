import Orchestrator.Text.Blank
import Orchestrator.Time.Document

/-!
The datastore: static texts by key, which templates can read.
-/

namespace Orchestrator

/-- An entry of the datastore. -/
structure DataEntry where
  key : String
  contentType : String
  value : String
  updatedAt : Timestamp
  deriving DecidableEq, Repr, Inhabited

namespace DataEntry

/-- Whether the entry holds JSON by its content type, whose parameters do not count. -/
def isJson (e : DataEntry) : Bool :=
  let essence := match Text.cutAt? ';' e.contentType.toList with
    | some (before, _) => before
    | none => e.contentType.toList
  let essence := Text.lowerAscii (String.ofList (Text.trimChars essence))
  essence == "application/json" || essence == "text/json"

def toJson (e : DataEntry) : Json :=
  Json.object [
    ("key", .str e.key),
    ("contentType", .str e.contentType),
    ("value", .str e.value),
    ("updatedAt", e.updatedAt.toJson)]

def read : Decoder DataEntry :=
  open Decode in
  record "DatastoreEntry" <| (Fields.pure mk)
    |>.and (required "key" text)
    |>.and (required "contentType" text)
    |>.and (required "value" text)
    |>.and (required "updatedAt" time)

end DataEntry

/-- The entries of the datastore by key. -/
abbrev DataStore := Dict DataEntry

namespace DataStore

/-- Puts an entry under its key, and says whether the key is new. -/
def put (s : DataStore) (e : DataEntry) : Bool × DataStore :=
  (!s.contains e.key, s.insert e.key e)

/-- Removes the entry of a key, and says whether there was one. -/
def remove (s : DataStore) (key : String) : Bool × DataStore :=
  (s.contains key, s.erase key)

end DataStore

end Orchestrator
