import Orchestrator.Json.Basic
import Orchestrator.Number.Reading
import Orchestrator.Yaml.Node

/-!
What the nodes of a YAML document stand for as JSON.

A plain scalar without a tag is taken for what it looks like: nothing, a truth value, a number, or
else a text. The tags of these kinds ask for that very kind, and any other tag that is not local for a
text. Local tags have no meaning in JSON.
-/

namespace Orchestrator.Yaml

/-! ## Scalars -/

def isNullWord (text : String) : Bool := ["null", "Null", "NULL", "~"].contains text

def bool? (text : String) : Option Bool :=
  if ["true", "True", "TRUE"].contains text then some true
  else if ["false", "False", "FALSE"].contains text then some false
  else none

/-- The letters of the bases that numbers may be written in other than ten. -/
def bases : List (Char × Nat) := [('x', 16), ('o', 8), ('b', 2)]

/-- The value of digits in a base, of which there must be at least one. -/
def naturalIn? (base : Nat) (cs : List Char) : Option Nat :=
  if cs.isEmpty then none
  else Text.digitsIn? base cs

/-- Whether digits follow a leading zero. Such a text is no number. -/
def hasLeadingZero (cs : List Char) : Bool :=
  match (Numeral.sign cs).2 with
  | '0' :: rest => !rest.isEmpty && rest.all Char.isDigit
  | _ => false

/-- An integer with or without a sign, in base ten or in the base of its prefix. -/
def integer? (cs : List Char) : Option Int :=
  let (isNegative, digits) := Numeral.sign cs
  let inBase : Option Nat := match digits with
    | '0' :: letter :: rest => (bases.lookup letter).bind (naturalIn? · rest)
    | _ => none
  match inBase with
  | some n => some (if isNegative then -(n : Int) else n)
  | none => if hasLeadingZero cs then none else Numeral.integer? cs

/-- A floating point number; the words for infinity and for what is no number begin with a point. -/
def float? (cs : List Char) : Option Binary64 :=
  let (isNegative, body) := Numeral.sign cs
  if [".inf", ".Inf", ".INF"].contains (String.ofList body) then some (.infinity isNegative)
  else if [".nan", ".NaN", ".NAN"].contains (String.ofList cs) then some .nan
  else (Numeral.float? cs).filter Binary64.isFinite

/-- A number as JSON, which knows neither infinities nor what is no number. -/
def ofFloat (x : Binary64) : Json := if x.isFinite then .num (.float x) else .null

/-- An integer as JSON, if it fits 64 bits. -/
def ofInteger? (n : Int) : Option Json :=
  if -(Int.pow 2 63) ≤ n ∧ n < Int.pow 2 64 then some (.int n) else none

/-- Whether an integer fits 128 bits. Those that do not are read as floating point numbers. -/
def isInteger (n : Int) : Bool := -(Int.pow 2 127) ≤ n && n < Int.pow 2 128

/-- What a plain scalar looks like. -/
def plainValue? (text : String) : Option Json :=
  let cs := text.toList
  if cs.isEmpty ∨ isNullWord text then some .null
  else match bool? text, (integer? cs).filter isInteger with
    | some b, _ => some (.bool b)
    | none, some n => ofInteger? n
    | none, none =>
      match if hasLeadingZero cs then none else float? cs with
      | some x => some (ofFloat x)
      | none => some (.str text)

/-- What the standard tags begin with. -/
def standardTag (name : String) : String := "tag:yaml.org,2002:" ++ name

/-- Whether a tag has a meaning in one place only. -/
def isLocalTag (tag : Option String) : Bool := tag.any fun t => t.toList.head? == some '!'

/-- What a scalar stands for. -/
def scalarValue? (tag : Option String) (isPlain : Bool) (text : String) : Option Json :=
  match tag with
  | none => if isPlain then plainValue? text else some (.str text)
  | some t =>
    if isLocalTag tag then none
    else if t = standardTag "bool" then (bool? text).map .bool
    else if t = standardTag "int" then (integer? text.toList).bind ofInteger?
    else if t = standardTag "float" then (float? text.toList).map ofFloat
    else if t = standardTag "null" then if isNullWord text then some .null else none
    else some (.str text)

/-! ## Documents -/

/-- A document whose aliases can be followed. -/
structure Document where
  root : Node
  /-- The nodes with anchors by number; the first of a number counts. -/
  anchored : List (Nat × Node)
  /-- How many aliases may be followed in all. -/
  followable : Nat

namespace Document

/-- How often aliases may be followed for each mark of a document. -/
def aliasesPerMark : Nat := 100

def ofNode (root : Node) : Document :=
  ⟨root, root.anchoredAfter [], root.sizeAfter 0 * aliasesPerMark⟩

/-- A reading that counts the aliases that it has followed. -/
abbrev Following := StateT Nat Option

/-- The node that an alias stands for, or the node itself. -/
def resolved (d : Document) : Node → Following Node
  | .alias id => do
    modify (· + 1)
    if d.followable < (← get) then failure
    d.anchored.lookup id
  | n => return n

/-- The key of an entry, which is the text of a scalar whatever that looks like. -/
def key (d : Document) (n : Node) : Following String := do
  match ← d.resolved n with
  | .scalar _ _ text => return text
  | _ => failure

/-- The value of a node, in which collections nest by at most `depth`. The depth bounds the aliases
that lead back into what they are part of, too. -/
def value (d : Document) : (depth : Nat) → Node → Following Json
  | depth, n => do
    match ← d.resolved n, depth with
    | .scalar p isPlain text, _ => scalarValue? p.tag isPlain text
    | .sequence p items, depth + 1 =>
      if isLocalTag p.tag then failure
      return .arr (← items.mapM (d.value depth))
    | .mapping p entries, depth + 1 =>
      if isLocalTag p.tag then failure
      return .object (← entries.mapM fun (k, v) => return (← d.key k, ← d.value depth v))
    | _, _ => failure

end Document

/-- The JSON document that a node stands for. -/
def Node.toJson? (n : Node) : Option Json :=
  let d := Document.ofNode n
  ((d.value Reader.deepest d.root).run 0).map Prod.fst

end Orchestrator.Yaml
