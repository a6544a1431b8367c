import Orchestrator.Store.Data
import Orchestrator.Template.Calling
import Orchestrator.Template.Mention
import Orchestrator.Template.Reader.Stmt
import Orchestrator.Template.Toolset

/-!
The state of a template that is being rendered.

Variables live in frames, the innermost first. Loops, sets of attributes and the scopes of macros
are shared by reference; they live in numbered cells.
-/

namespace Orchestrator

namespace Template

/-- Variables that begin to exist and end together. -/
structure Frame where
  vars : List (String × Value)
  /-- The cell of the loop that the frame belongs to. -/
  loop : Option Nat
  /-- The cell of the scope that macros of this frame share. -/
  scope : Option Nat
  deriving Inhabited

/-- How far a loop has come. -/
structure LoopState where
  target : Target
  body : List Stmt
  isRecursive : Bool
  /-- How many recursive loops it runs in. -/
  depth : Nat
  index : Nat
  length : Nat
  previous : Value
  following : Value
  /-- The values that were last compared with. -/
  lastSeen : Option (List Value)
  deriving Inhabited

/-- A loop that begins. -/
def LoopState.start (target : Target) (body : List Stmt) (isRecursive : Bool) (depth : Nat) :
    LoopState :=
  ⟨target, body, isRecursive, depth, 0, 0, .undefined, .undefined, none⟩

/-- What is shared by reference. -/
inductive Cell where
  | loop (state : LoopState)
  | record (entries : List (Value × Value))
  | scope (frames : List Frame)
  deriving Inhabited

/-- The state of a template that is being rendered. -/
structure Machine where
  frames : List Frame
  cells : Array Cell
  out : String
  /-- Whether text is escaped for HTML. -/
  escaping : Bool
  /-- How many frames are open, counting those of callers. -/
  depth : Nat
  /-- What random draws depend on. -/
  seed : Nat
  /-- The text that the last block statement caught. -/
  caught : Value
  deriving Inhabited

/-- A computation that renders. -/
abbrev Render := StateT Machine Calling

/-- How many frames may be open. -/
def maxFrames : Nat := 500

namespace Render

def fail {α : Type} (fault : Fault) : Render α := liftM (Except.error fault)

/-- Fails because of a value that cannot be used so. -/
def invalid {α : Type} : Render α := fail .invalidOperation

/-- The text of another template. -/
def nest (c : Call) : Render String := liftM (Calling.ask c)

def write (s : String) : Render Unit := modify fun m => { m with out := m.out ++ s }

/-- Makes a cell and gives its place. -/
def newCell (cell : Cell) : Render Nat := do
  let m ← get
  set { m with cells := m.cells.push cell }
  pure m.cells.size

def readCell (place : Nat) : Render (Option Cell) := return (← get).cells[place]?

def writeCell (place : Nat) (cell : Cell) : Render Unit :=
  modify fun m => { m with cells := m.cells.setIfInBounds place cell }

/-- The entries of a set of attributes. -/
def entriesAt (place : Nat) : Render (List (Value × Value)) := do
  match ← readCell place with
  | some (.record entries) => pure entries
  | _ => pure []

/-- The state of a loop. -/
def loopAt? (place : Nat) : Render (Option LoopState) := do
  match ← readCell place with
  | some (.loop state) => pure (some state)
  | _ => pure none

/-- The functions that every template can call. -/
def functions : List String :=
  ["range", "dict", "debug", "namespace", "unmarshalJson", "randomInt", "randomAlpha", "template",
    "datastore"]

/-- A variable in a frame. -/
def Frame.lookup (f : Frame) (name : String) : Option Value :=
  match f.vars.lookup name with
  | some v => some v
  | none => if name = "loop" then f.loop.map .loopState else none

/-- The value of a variable, if it is known. -/
def lookup? (name : String) : Render (Option Value) := do
  match (← get).frames.findSome? fun f => Frame.lookup f name with
  | some v => pure (some v)
  | none => pure (if functions.contains name then some (.function name) else none)

/-- Sets a variable in a list of variables. -/
def setVar (name : String) (v : Value) (vars : List (String × Value)) : List (String × Value) :=
  (name, v) :: vars.filter fun entry => entry.1 ≠ name

/-- Sets a variable of the innermost frame, and in the scope that its macros share. -/
def assign (name : String) (v : Value) : Render Unit := do
  let m ← get
  match m.frames with
  | [] => pure ()
  | top :: rest =>
    set { m with frames := { top with vars := setVar name v top.vars } :: rest }
    match top.scope with
    | none => pure ()
    | some place =>
      match ← readCell place with
      | some (.scope (inner :: outer)) =>
        writeCell place (.scope ({ inner with vars := setVar name v inner.vars } :: outer))
      | _ => pure ()

/-- Runs something in a frame of its own. -/
def inFrame {α : Type} (frame : Frame) (inner : Render α) : Render α := do
  let m ← get
  if maxFrames ≤ m.depth then invalid
  else
    set { m with frames := frame :: m.frames, depth := m.depth + 1 }
    let x ← inner
    modify fun m => { m with frames := m.frames.tail, depth := m.depth - 1 }
    pure x

/-- The text that something prints, as a value. -/
def capture (inner : Render Unit) : Render Value := do
  let before := (← get).out
  modify fun m => { m with out := "" }
  inner
  let m ← get
  set { m with out := before }
  pure (.str m.out m.escaping)

/-- The scope that macros of the innermost frame share. -/
def sharedScope : Render Nat := do
  let m ← get
  match m.frames with
  | [] => newCell (.scope [])
  | top :: rest =>
    match top.scope with
    | some place => pure place
    | none =>
      let place ← newCell (.scope m.frames)
      modify fun m => { m with frames := { top with scope := some place } :: rest }
      pure place

/-- A number below a bound, from the seed, which moves on. -/
def draw (bound : Nat) : Render Nat := do
  let m ← get
  let seed := (m.seed * 6364136223846793005 + 1442695040888963407) % Nat.pow 2 64
  set { m with seed }
  pure (seed / Nat.pow 2 11 % bound)

/-- The attributes of a loop by name. -/
def loopEntries (s : LoopState) : List (String × Value) := [
  ("index0", .int s.index),
  ("index", .int (s.index + 1)),
  ("length", .int s.length),
  ("revindex", .int (s.length - s.index : Nat)),
  ("revindex0", .int (s.length - s.index - 1 : Nat)),
  ("first", .bool (s.index == 0)),
  ("last", .bool (s.index + 1 == s.length)),
  ("depth", .int (s.depth + 1)),
  ("depth0", .int s.depth),
  ("previtem", s.previous),
  ("nextitem", s.following)]

/-- A value with what it refers to put in its place. -/
def snapshot (v : Value) : Render Value := do
  match v with
  | .record place => return .map (← entriesAt place)
  | .loopState place =>
    match ← loopAt? place with
    | some state => pure (.ofNamed (loopEntries state))
    | none => pure v
  | v => pure v

/-- Prints a value. -/
def print (v : Value) : Render Unit := do
  match v with
  | .str s _ => write (if (← get).escaping then v.escaped else s)
  | .bool _ | .none => write v.printed
  | v =>
    let v ← snapshot v
    write (if (← get).escaping then v.escaped else v.printed)

end Render

end Template

end Orchestrator
