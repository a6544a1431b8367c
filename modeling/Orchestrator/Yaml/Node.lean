import Orchestrator.Dict
import Orchestrator.Yaml.Token

/-!
The nodes of a YAML document, read from its tokens.

A name of an anchor stands for a number: the count of the names that the document had before. A name
that is declared again gets a new number, which is that of another name if no name has come between.

The readers of collections keep what they have found in reverse. They end because each call takes a
token or is the first to look at one; `fuel` is to be more than twice the number of tokens. `depth`
limits how deeply collections may nest.
-/

namespace Orchestrator.Yaml

/-- What may be declared in front of a node. -/
structure Properties where
  tag : Option String
  anchor : Option Nat
  deriving DecidableEq, Repr, Inhabited

/-- A node of a document. -/
inductive Node where
  | alias (anchor : Nat)
  | scalar (properties : Properties) (isPlain : Bool) (text : String)
  | sequence (properties : Properties) (items : List Node)
  | mapping (properties : Properties) (entries : List (Node × Node))
  deriving Repr, Inhabited

namespace Node

/-- A node that is left out. -/
def missing (properties : Properties) : Node := .scalar properties true ""

def empty : Node := missing ⟨none, none⟩

mutual

/-- Adds the nodes with anchors to those `found` before, the last that begins first. -/
def anchoredAfter (found : List (Nat × Node)) : Node → List (Nat × Node)
  | .alias _ => found
  | .scalar p isPlain text => (p.anchor.toList.map fun id => (id, .scalar p isPlain text)) ++ found
  | .sequence p items =>
    anchoredItems ((p.anchor.toList.map fun id => (id, .sequence p items)) ++ found) items
  | .mapping p entries =>
    anchoredEntries ((p.anchor.toList.map fun id => (id, .mapping p entries)) ++ found) entries

def anchoredItems (found : List (Nat × Node)) : List Node → List (Nat × Node)
  | [] => found
  | item :: rest => anchoredItems (item.anchoredAfter found) rest

def anchoredEntries (found : List (Nat × Node)) : List (Node × Node) → List (Nat × Node)
  | [] => found
  | (key, value) :: rest => anchoredEntries (value.anchoredAfter (key.anchoredAfter found)) rest

end

mutual

/-- Adds how many marks make up a node: one for a scalar or an alias, and two around a collection. -/
def sizeAfter (count : Nat) : Node → Nat
  | .alias _ | .scalar .. => count + 1
  | .sequence _ items => sizeItems (count + 2) items
  | .mapping _ entries => sizeEntries (count + 2) entries

def sizeItems (count : Nat) : List Node → Nat
  | [] => count
  | item :: rest => sizeItems (item.sizeAfter count) rest

def sizeEntries (count : Nat) : List (Node × Node) → Nat
  | [] => count
  | (key, value) :: rest => sizeEntries (value.sizeAfter (key.sizeAfter count)) rest

end

end Node

/-- What is left of the tokens, and the numbers of the names of anchors so far. -/
structure Reading where
  tokens : List Token
  names : List (String × Nat)

/-- A reader of a part of a document. -/
abbrev Reader := StateT Reading Option

/-- What the handles of tags stand for; of several declarations of a handle the first counts. -/
abbrev Handles := List (String × String)

namespace Reader

/-- The next token, which stays. -/
def peek? : Reader (Option Token) := fun r => some (r.tokens.head?, r)

def skip : Reader Unit := fun r => some ((), { r with tokens := r.tokens.tail })

/-- Whether the next token is one of some, or the tokens are at their end and `orEnd` is set. -/
def isNext (ts : List Token) : Reader Bool := return (← peek?).any ts.contains

/-- Takes a token if it comes next, and says whether it did. -/
def take (t : Token) : Reader Bool := do
  let found ← isNext [t]
  if found then skip
  return found

def require (t : Token) : Reader Unit := do if !(← take t) then failure

/-- Reads a node, which is left out if a token comes next that cannot begin it. -/
def unlessNext (ts : List Token) (read : Reader Node) : Reader Node := do
  if ← isNext ts then return Node.empty else read

/-- Reads a collection one level deeper. -/
def inside {α : Type} (read : (depth : Nat) → Reader α) : (depth : Nat) → Reader α
  | 0 => failure
  | depth + 1 => read depth

/-! ## Properties -/

/-- The handles that need no declaration. -/
def defaultHandles : Handles := [("!", "!"), ("!!", "tag:yaml.org,2002:")]

/-- The tag that a handle and a suffix make up. Without a handle the suffix is all of it. -/
def tag? (handles : Handles) (handle suffix : String) : Option String :=
  if handle.isEmpty then some suffix else (handles.lookup handle).map (· ++ suffix)

def optionalTag (handles : Handles) : Reader (Option String) := do
  match ← peek? with
  | some (.tag handle suffix) => skip; return some (← tag? handles handle suffix)
  | _ => return none

def optionalAnchor : Reader (Option Nat) := do
  match ← peek? with
  | some (.anchor name) =>
    skip
    modifyGet fun r =>
      (some r.names.length, { r with names := Entries.insert name r.names.length r.names })
  | _ => return none

/-- Reads an anchor and a tag, in either order. -/
def properties (handles : Handles) : Reader Properties := do
  match ← optionalAnchor with
  | some id => return ⟨← optionalTag handles, some id⟩
  | none => do
    let tag ← optionalTag handles
    if tag.isSome then return ⟨tag, ← optionalAnchor⟩
    return ⟨none, none⟩

/-! ## Nodes -/

mutual

/-- Reads a node. Collections in blocks can begin `inBlock` only, and a sequence that is not indented
only where `mayStayBack`. The tag that is an exclamation mark alone says nothing of a scalar. -/
def node (handles : Handles) (inBlock mayStayBack : Bool) : (fuel depth : Nat) → Reader Node
  | 0, _ => failure
  | fuel + 1, depth => do
    if let some (.alias name) ← peek? then
      skip
      return .alias (← Entries.find? name (← get).names)
    let p ← properties handles
    let next ← peek?
    match next with
    | some (.scalar isPlain text) =>
      skip
      return .scalar { p with tag := p.tag.filter (· ≠ "!") } isPlain text
    | some .flowSequenceStart =>
      skip
      inside (fun depth => return .sequence p (← flowItems handles fuel depth [])) depth
    | some .flowMappingStart =>
      skip
      inside (fun depth => return .mapping p (← flowEntries handles fuel depth [])) depth
    | _ =>
      if next = some .blockEntry ∧ mayStayBack then
        inside (fun depth => return .sequence p (← blockItems handles true fuel depth [])) depth
      else if next = some .blockSequenceStart ∧ inBlock then
        skip
        inside (fun depth => return .sequence p (← blockItems handles false fuel depth [])) depth
      else if next = some .blockMappingStart ∧ inBlock then
        skip
        inside (fun depth => return .mapping p (← blockEntries handles fuel depth [])) depth
      else if p.anchor.isSome ∨ p.tag.isSome then return .missing p
      else failure
termination_by structural fuel _ => fuel

/-- The items of a block sequence. One that is not indented ends before what is no item. -/
def blockItems (handles : Handles) (staysBack : Bool) :
    (fuel depth : Nat) → List Node → Reader (List Node)
  | 0, _, _ => failure
  | fuel + 1, depth, found => do
    if ← take .blockEntry then
      let ends := if staysBack then [.blockEntry, .key, .value, .blockEnd] else [.blockEntry, .blockEnd]
      let item ← unlessNext ends (node handles true false fuel depth)
      blockItems handles staysBack fuel depth (item :: found)
    else
      if !staysBack then require .blockEnd
      return found.reverse
termination_by structural fuel _ _ => fuel

/-- The entries of a block mapping. -/
def blockEntries (handles : Handles) :
    (fuel depth : Nat) → List (Node × Node) → Reader (List (Node × Node))
  | 0, _, _ => failure
  | fuel + 1, depth, found => do
    if ← take .key then
      let part := unlessNext [.key, .value, .blockEnd] (node handles true true fuel depth)
      let key ← part
      let hasValue ← take .value
      let value ← if hasValue then part else pure .empty
      blockEntries handles fuel depth ((key, value) :: found)
    else
      require .blockEnd
      return found.reverse
termination_by structural fuel _ _ => fuel

/-- The items of a flow sequence. An item may be a single pair, which is a mapping of its own. -/
def flowItems (handles : Handles) :
    (fuel depth : Nat) → List Node → Reader (List Node)
  | 0, _, _ => failure
  | fuel + 1, depth, found => do
    if ← take .flowSequenceEnd then return found.reverse
    if !found.isEmpty then
      require .flowEntry
      if ← take .flowSequenceEnd then return found.reverse
    let isPair ← take .key
    let item ←
      if isPair then inside (flowPair handles fuel) depth
      else node handles false false fuel depth
    flowItems handles fuel depth (item :: found)
termination_by structural fuel _ _ => fuel

/-- A single pair in a flow sequence. A token that shows that the key is left out goes with it. -/
def flowPair (handles : Handles) : (fuel depth : Nat) → Reader Node
  | 0, _ => failure
  | fuel + 1, depth => do
    let isKeyless ← isNext [.value, .flowEntry, .flowSequenceEnd]
    if isKeyless then skip
    let part := node handles false false fuel depth
    let key ← if isKeyless then pure .empty else part
    let hasValue ← take .value
    let value ←
      if hasValue then unlessNext [.flowEntry, .flowSequenceEnd] part else pure .empty
    return .mapping ⟨none, none⟩ [(key, value)]
termination_by structural fuel _ => fuel

/-- The entries of a flow mapping. A node without the sign of a key is a key without a value. -/
def flowEntries (handles : Handles) :
    (fuel depth : Nat) → List (Node × Node) → Reader (List (Node × Node))
  | 0, _, _ => failure
  | fuel + 1, depth, found => do
    if ← take .flowMappingEnd then return found.reverse
    if !found.isEmpty then
      require .flowEntry
      if ← take .flowMappingEnd then return found.reverse
    let part := node handles false false fuel depth
    if ← take .key then
      let key ← unlessNext [.value, .flowEntry, .flowMappingEnd] part
      let hasValue ← take .value
      let value ← if hasValue then unlessNext [.flowEntry, .flowMappingEnd] part else pure .empty
      flowEntries handles fuel depth ((key, value) :: found)
    else
      let key ← part
      flowEntries handles fuel depth ((key, .empty) :: found)
termination_by structural fuel _ _ => fuel

end

/-! ## Documents -/

/-- The deepest nesting of collections. -/
def deepest : Nat := 128

/-- Takes the directives in front of a document, with the handles that they declare. A version may be
declared once. -/
def directives : List Token → (hasVersion : Bool) → Handles → Option (Handles × List Token)
  | .versionDirective major minor :: rest, hasVersion, handles =>
    if hasVersion ∨ major ≠ 1 ∨ (minor ≠ 1 ∧ minor ≠ 2) then none
    else directives rest true handles
  | .tagDirective handle target :: rest, hasVersion, handles =>
    if (handles.lookup handle).isSome then none
    else directives rest hasVersion ((handle, target) :: handles)
  | rest, _, handles => some (handles, rest)

def isDirective : Token → Bool
  | .versionDirective .. | .tagDirective .. => true
  | _ => false

/-- Reads the root of the document. It may be left out only where the document begins by a mark of
its own. -/
def root (fuel : Nat) : Reader Node := do
  let tokens := (← get).tokens
  if tokens.isEmpty then return .empty
  if tokens.head?.any fun t => isDirective t || t == .documentStart then
    let (handles, tokens) ← directives tokens false []
    modify ({ · with tokens })
    require .documentStart
    let next ← peek?
    if next.isNone || next.any (fun t => isDirective t || t == .documentStart || t == .documentEnd) then
      return .empty
    node (handles ++ defaultHandles) true false fuel deepest
  else node defaultHandles true false fuel deepest

end Reader

/-- Reads the root of the only document that some tokens make up; the document of no tokens is
empty. -/
def Node.ofTokens? (tokens : List Token) : Option Node := do
  let (node, rest) ← (Reader.root (2 * tokens.length + 4)).run ⟨tokens, []⟩
  if (rest.tokens.dropWhile (· == .documentEnd)).isEmpty then return node else none

end Orchestrator.Yaml
