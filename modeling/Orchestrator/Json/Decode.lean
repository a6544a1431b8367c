import Orchestrator.Json.Basic
import Orchestrator.Number.Layout
import Orchestrator.Text.Quoted

/-!
Typed reading of JSON values.

A record is read from an object by the names of its fields, or from an array by their order. In an
object the entries are judged in key order, so of several bad fields the one whose key is smallest
is reported; a missing field is reported only when no present one is bad, and then the first in
order of declaration. In an array the first bad or missing position is reported.
-/

namespace Orchestrator

/-- Why a JSON value is not of the wanted type. -/
inductive DecodeError where
  | missingField (name : String)
  | invalidType (found expected : String)
  | invalidLength (length : Nat) (expected : String)
  | duplicateField (name : String)
  | unknownVariant (found : String) (known : List String)
  /-- A value of the right type with a content that is refused. -/
  | refused (reason : String)
  deriving DecidableEq, Repr, Inhabited

namespace DecodeError

/-- A name between backquotes. -/
def ticked (s : String) : String := "\x60" ++ s ++ "\x60"

/-- The names that a choice is made from. -/
def choices : List String → String
  | [] => "there are no variants"
  | [a] => "expected " ++ ticked a
  | [a, b] => "expected " ++ ticked a ++ " or " ++ ticked b
  | names => "expected one of " ++ ", ".intercalate (names.map ticked)

/-- The text of the error. -/
def message : DecodeError → String
  | missingField name => "missing field " ++ ticked name
  | invalidType found expected => "invalid type: " ++ found ++ ", expected " ++ expected
  | invalidLength length expected =>
    "invalid length " ++ decimalText length ++ ", expected " ++ expected
  | duplicateField name => "duplicate field " ++ ticked name
  | unknownVariant found known => "unknown variant " ++ ticked found ++ ", " ++ choices known
  | refused reason => reason

end DecodeError

namespace Json

/-- How an error text names a value. -/
def described : Json → String
  | .null => "null"
  | .bool b => "boolean " ++ DecodeError.ticked (if b then "true" else "false")
  | .num (.int n) => "integer " ++ DecodeError.ticked (decimalText n)
  | .num (.float x) => "floating point " ++ DecodeError.ticked x.compact
  | .str s => "string " ++ Text.quoted s
  | .arr _ => "sequence"
  | .obj _ => "map"

/-- The error that something else was wanted. -/
def unexpected (j : Json) (expected : String) : DecodeError := .invalidType j.described expected

end Json

/-- Reads a value of a type from JSON. -/
abbrev Decoder (α : Type) := Json → Except DecodeError α

namespace Decode

/-- Any value as it is. -/
def any : Decoder Json := .ok

def text : Decoder String
  | .str s => .ok s
  | j => .error (j.unexpected "a string")

/-- Reads a text and then judges its content. -/
def parsed (expected : String) (parse : String → Except String α) : Decoder α
  | .str s => (parse s).mapError .refused
  | j => .error (j.unexpected expected)

/-- Reads all elements; the first that fails is reported. -/
def elements (item : Decoder α) : List Json → Except DecodeError (List α)
  | [] => .ok []
  | j :: rest => do
    let x ← item j
    let xs ← elements item rest
    pure (x :: xs)

def list (item : Decoder α) : Decoder (List α)
  | .arr items => elements item items
  | j => .error (j.unexpected "a sequence")

/-- Reads all values of an object; the first that fails is reported. -/
def bindings (item : Decoder α) : List (String × Json) → Except DecodeError (List (String × α))
  | [] => .ok []
  | (k, j) :: rest => do
    let x ← item j
    let xs ← bindings item rest
    pure ((k, x) :: xs)

def dict (item : Decoder α) : Decoder (Dict α)
  | .obj entries => (bindings item entries).map Dict.ofList
  | j => .error (j.unexpected "a map")

/-- Reads `null` as nothing. -/
def optional (item : Decoder α) : Decoder (Option α)
  | .null => .ok none
  | j => (item j).map some

/-- Reads a name out of a fixed choice. The name is a text, or the only key of an object whose
value is `null`. -/
def choice (known : List (String × α)) : Decoder α := fun j =>
  let find (name : String) : Except DecodeError α :=
    match known.find? (·.1 == name) with
    | some (_, x) => .ok x
    | none => .error (.unknownVariant name (known.map Prod.fst))
  match j with
  | .str name => find name
  | .obj [(name, content)] => do
    let x ← find name
    if content.isNull then pure x else .error (content.unexpected "unit")
  | .obj _ => .error (.refused "invalid value: map, expected map with a single key")
  | j => .error (j.unexpected "string or map")

/-- What a field has besides its value. -/
inductive Presence (α : Type) where
  /-- The field has to be there. -/
  | required
  /-- A missing field of an object takes this value, a missing position of an array does not. -/
  | inObject (default : α)
  /-- A missing field takes this value. -/
  | defaulted (default : α)

/-- One field of a record: its name, the further names it answers to, and how it is read. -/
structure Field (α : Type) where
  name : String
  aliases : List String
  presence : Presence α
  read : Decoder α

/-- What is wrong with an object: an entry that cannot be read, or a field that is not there. -/
inductive Fault where
  | bad (key : String) (error : DecodeError)
  | missing (name : String)

/-- Which of two faults is reported: a bad entry before a missing field, of two bad entries the
one with the smaller key, and of two missing fields the first. -/
def Fault.graver : Fault → Fault → Fault
  | .bad k e, .bad l f => if l < k then .bad l f else .bad k e
  | .bad k e, .missing _ => .bad k e
  | .missing _, .bad l f => .bad l f
  | .missing name, .missing _ => .missing name

/-- Where an array of fields stands: the next position and what is left. -/
structure Cursor where
  position : Nat
  rest : List Json

/-- A reader of some of a record's fields. The number of all fields of the record is known only
at the end, so that the text of a length error is a parameter. -/
structure Fields (α : Type) where
  count : Nat
  ofEntries : List (String × Json) → Except Fault α
  ofItems : (expected : String) → Cursor → Except DecodeError (α × Cursor)

namespace Fields

/-- A reader that needs no field. -/
def pure (x : α) : Fields α where
  count := 0
  ofEntries _ := .ok x
  ofItems _ cursor := .ok (x, cursor)

/-- Reads one field out of an object. -/
def find (field : Field α) (entries : List (String × Json)) : Except Fault α :=
  let names := field.name :: field.aliases
  match entries.filter fun entry => names.contains entry.1 with
  | [] =>
    match field.presence with
    | .required => .error (.missing field.name)
    | .inObject x | .defaulted x => .ok x
  | [(key, j)] => (field.read j).mapError (.bad key)
  | (key, j) :: (other, _) :: _ =>
    match field.read j with
    | .error e => .error (.bad key e)
    | .ok _ => .error (.bad other (.duplicateField field.name))

/-- Reads one field out of an array. -/
def next (field : Field α) (expected : String) (cursor : Cursor) :
    Except DecodeError (α × Cursor) :=
  match cursor.rest with
  | j :: rest => (field.read j).map fun x => (x, ⟨cursor.position + 1, rest⟩)
  | [] =>
    match field.presence with
    | .defaulted x => .ok (x, ⟨cursor.position + 1, []⟩)
    | _ => .error (.invalidLength cursor.position expected)

/-- Reads one more field after the others. -/
def and (f : Fields (α → β)) (field : Field α) : Fields β where
  count := f.count + 1
  ofEntries entries :=
    match f.ofEntries entries, find field entries with
    | .ok g, .ok x => .ok (g x)
    | .ok _, .error a | .error a, .ok _ => .error a
    | .error a, .error b => .error (a.graver b)
  ofItems expected cursor := do
    let (g, cursor) ← f.ofItems expected cursor
    let (x, cursor) ← next field expected cursor
    Except.ok (g x, cursor)

end Fields

/-- A field that has to be there. -/
def required (name : String) (read : Decoder α) : Field α := ⟨name, [], .required, read⟩

/-- A field with a value for its absence. -/
def withDefault (name : String) (read : Decoder α) (default : α) : Field α :=
  ⟨name, [], .defaulted default, read⟩

/-- The wording of a number of elements. -/
def elementCount (n : Nat) : String :=
  decimalText n ++ (if n = 1 then " element" else " elements")

/-- Reads a record called `name`. -/
def record (name : String) (fields : Fields α) : Decoder α
  | .obj entries =>
    match fields.ofEntries entries with
    | .ok x => .ok x
    | .error (.bad _ e) => .error e
    | .error (.missing field) => .error (.missingField field)
  | .arr items => do
    let expected := "struct " ++ name ++ " with " ++ elementCount fields.count
    let (x, cursor) ← fields.ofItems expected ⟨0, items⟩
    if cursor.rest.isEmpty then pure x
    else .error (.invalidLength items.length "fewer elements in array")
  | j => .error (j.unexpected ("struct " ++ name))

end Decode

end Orchestrator
