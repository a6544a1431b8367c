import Orchestrator.Json.Decode
import Orchestrator.Time.Rfc3339

/-!
Times in JSON documents.
-/

namespace Orchestrator

namespace Decode

def time : Decoder Timestamp :=
  parsed "an RFC 3339 formatted date and time string" fun s =>
    match Rfc3339.parseLoose? s with
    | some t => .ok t.moment
    | none => .error "not a time"

end Decode

def Timestamp.toJson (t : Timestamp) : Json := .str (Rfc3339.text t)

end Orchestrator
