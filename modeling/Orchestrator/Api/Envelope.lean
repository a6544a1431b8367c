import Orchestrator.Pack

/-!
What the service sends when all goes well: the data in an envelope with links to itself, to what
stands above it, and to the description of the service.
-/

namespace Orchestrator

/-- A link to a related resource. -/
structure Link where
  rel : String
  href : String
  deriving DecidableEq, Repr, Inhabited

namespace Link

def toJson (l : Link) : Json := Json.object [("rel", .str l.rel), ("href", .str l.href)]

def read : Decoder Link :=
  open Decode in
  record "Link" <| (Fields.pure mk)
    |>.and (required "rel" text)
    |>.and (required "href" text)

/-- The links of a resource to itself, to what stands above it and to help. -/
def around (self up : String) : List Link := [⟨"self", self⟩, ⟨"up", up⟩, ⟨"help", "/v1/info"⟩]

end Link

/-- Data with the links of its resource. -/
def envelope (data : Json) (self up : String) : Json :=
  Json.object [("data", data), ("links", .arr ((Link.around self up).map Link.toJson))]

/-- A pack together with its status at `now`. -/
def Pack.view (p : Pack) (now : Timestamp) : Json :=
  match p.toJson with
  | .obj entries => Json.object (entries ++ [("status", (p.status now).toJson)])
  | other => other

end Orchestrator
