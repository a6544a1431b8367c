import Orchestrator.Api.Failure
import Orchestrator.Http.Message
import Orchestrator.Json.Parser
import Orchestrator.Text.Blank
import Orchestrator.Yaml

/-!
The bodies of requests: JSON, or YAML where the declared type says so. Either way the body becomes a
JSON document first, from which what is wanted is read.
-/

namespace Orchestrator

/-- The formats of a body. -/
inductive BodyFormat where
  | json
  | yaml
  deriving DecidableEq, Repr, Inhabited

namespace BodyFormat

/-- A declared type without its parameters, in lower case. -/
def essence (contentType : String) : String :=
  Text.lowerAscii <| Text.trim <| String.ofList <| contentType.toList.takeWhile (· ≠ ';')

def yamlTypes : List String :=
  ["application/x-yaml", "application/yaml", "text/yaml", "text/x-yaml"]

/-- The format that a declared type names. -/
def ofType (contentType : Option String) : BodyFormat :=
  if contentType.any fun t => yamlTypes.contains (essence t) then yaml else json

def name : BodyFormat → String
  | json => "JSON"
  | yaml => "YAML"

/-- Reads a document in the format. -/
def parse? : BodyFormat → String → Option Json
  | json => Json.parse?
  | yaml => Yaml.parse?

end BodyFormat

namespace Http.Request

/-- What is said of a body that is too large. -/
def oversizedText : String := "Failed to buffer the request body: length limit exceeded"

/-- The body as a document. -/
def document (r : Request) : Except Failure Json :=
  let format := BodyFormat.ofType r.readableType?
  if r.isOversized then .error (.badRequest oversizedText)
  else match r.text? >>= format.parse? with
    | some document => .ok document
    | none => .error (.badRequest ("malformed " ++ format.name ++ " body: no such document"))

/-- What the body says, read from its document. -/
def payload {α : Type} (r : Request) (read : Decoder α) : Except Failure α := do
  let document ← r.document
  (read document).mapError fun e => .badRequest ("invalid request body: " ++ e.message)

end Http.Request

end Orchestrator
