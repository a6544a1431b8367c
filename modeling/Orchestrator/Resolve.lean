import Orchestrator.Error
import Orchestrator.Event
import Orchestrator.Template.Renderer

/-!
Resolving texts, maps of texts and whole documents that hold templates.

All of it is stated over an arbitrary renderer, that is, over what a template's text and the
document it is rendered against come to. Resolution of a document is all or nothing: it fails with
the first text, in the order of the document, that cannot be rendered.
-/

namespace Orchestrator

/-- What a template comes to when it is rendered against a document. -/
abbrev Renderer := (source : String) → (document : Json) → Except ResolveError String

/-- Whether two characters begin a tag of a template. -/
def opensTag (a b : Char) : Bool := a = '\x7b' && (b = '\x7b' || b = '%' || b = '#')

/-- Whether a tag of a template begins somewhere. -/
def hasTag : List Char → Bool
  | a :: b :: rest => opensTag a b || hasTag (b :: rest)
  | _ => false

/-- Whether a text is a template. -/
def hasMarkup (source : String) : Bool := hasTag source.toList

/-- The renderer of the template language. A text without tags stands for itself. -/
def templateRenderer (data : DataStore) (seed : Nat) : Renderer := fun source document =>
  if hasMarkup source then (Template.render data seed source document).mapError (.render source)
  else .ok source

namespace Renderer

mutual

/-- A document with every text in it rendered. Keys and all that is not text stay as they are. -/
def resolve (r : Renderer) (document : Json) : Json → Except ResolveError Json
  | .str source => (r source document).map .str
  | .arr items => (resolveItems r document items).map .arr
  | .obj entries => (resolveEntries r document entries).map .obj
  | .null => .ok .null
  | .bool b => .ok (.bool b)
  | .num n => .ok (.num n)

/-- The elements of an array, resolved from the first on. -/
def resolveItems (r : Renderer) (document : Json) : List Json → Except ResolveError (List Json)
  | [] => .ok []
  | item :: rest => do
    let item ← resolve r document item
    let rest ← resolveItems r document rest
    pure (item :: rest)

/-- The entries of an object, resolved from the first on. -/
def resolveEntries (r : Renderer) (document : Json) :
    List (String × Json) → Except ResolveError (List (String × Json))
  | [] => .ok []
  | (key, item) :: rest => do
    let item ← resolve r document item
    let rest ← resolveEntries r document rest
    pure ((key, item) :: rest)

end

/-- The texts of a map, rendered from the first key on. -/
def resolveTexts (r : Renderer) (document : Json) :
    List (String × String) → Except ResolveError (List (String × String))
  | [] => .ok []
  | (key, source) :: rest => do
    let value ← r source document
    let rest ← resolveTexts r document rest
    pure ((key, value) :: rest)

/-- A map with every text rendered; keys stay as they are. -/
def resolveMap (r : Renderer) (document : Json) (d : Dict String) :
    Except ResolveError (Dict String) :=
  (resolveTexts r document d.toList).map Dict.ofList

end Renderer

/-- The spellings of the truth values. -/
def truthWords : List (String × Bool) :=
  ["1", "t", "T", "TRUE", "true", "True"].map (·, true) ++
    ["0", "f", "F", "FALSE", "false", "False"].map (·, false)

/-- The truth value that a text spells, blanks around it aside. -/
def truthOf? (s : String) : Option Bool := truthWords.lookup (Text.trim s)

/-- A text rendered and read as a truth value. -/
def Renderer.resolveBool (r : Renderer) (document : Json) (source : String) :
    Except ResolveError Bool := do
  let rendered ← r source document
  match truthOf? rendered with
  | some b => pure b
  | none => throw (.notBoolean source rendered)

/-- The document that a step's templates are rendered against. -/
def templateDocument (event : Event) (context : Dict String) : Json :=
  Json.object [("Event", event.view), ("Context", .ofTexts context)]

end Orchestrator
