import Orchestrator.Flow.Validation
import Orchestrator.Hub

/-!
An orchestrator with many tasks at work at the same time. A task advances by one access to the store
of actions or to the clock at a time, and between two of its moves any other task may move.

A run is any list of moves; a move that is not possible when its turn comes changes nothing. Fresh
identifiers, clock readings and what templates come to are parts of the moves. Of identifiers only
this is asked, that one that is drawn has not been given out before.

Two records are kept for the sake of proofs alone: which identifiers have been given out, and what
the store of actions has accepted. No task ever reads them.
-/

namespace Orchestrator

/-- A run on its way through the steps that were chosen for an event. -/
structure Walk where
  run : FlowInstance
  event : Event
  /-- The steps whose turn has not ended. -/
  steps : List Step
  /-- The action of the first of them, from its evaluation until it is put into the store. -/
  draft : Option Action
  /-- How many writes the store had accepted when the run was found. -/
  since : Nat

/-- A piece of work, and how far it has got. -/
inductive Task where
  /-- Finds the runs that a report moves. -/
  | dispatch (report : Report) (done : Bool)
  | walk (w : Walk)
  /-- Tries to take one of the actions that were read; the clock may have been read for the first. -/
  | take (pack : Pack) (queue : List Action) (reading : Option Timestamp)
  | taken (pack : Pack) (outcome : Except Error (Option Action))
  /-- Records a result of the action that was read. -/
  | complete (pack : Pack) (read : Action) (result : Event) (reading : Option Timestamp)
  /-- A completed action is dispatched when the request is answered. -/
  | completed (pack : Pack) (id : String) (read : Option Action)
      (outcome : Except Error (Option Action)) (answered : Bool)

/-- An action that the store accepted from a task. -/
structure Entry where
  task : Nat
  action : Action

/-- An orchestrator at work. -/
structure Floor where
  mode : DependencyMode
  flows : FlowStore
  actions : ActionStore
  /-- All tasks that have begun. A task is known by its place in the list. -/
  tasks : List Task
  /-- The identifiers that were given out, each with the task that got it. -/
  given : List (String × Nat)
  /-- The writes that the store of actions accepted. -/
  journal : List Entry

/-- What may happen next. -/
inductive Move where
  | register (flow : FlowDefinition) (uuid : Uuid)
  | unregister (name : String)
  | publish (event : Event)
  | beginTake (pack : Pack) (name : Option String)
  | beginComplete (pack : Pack) (id : String) (result : Event)
  /-- A dispatch finds its runs, which are new ones under the identifiers if it is about an event. -/
  | load (task : Nat) (ids : List String)
  | evaluate (task : Nat) (renderer : Renderer) (stamp : Stamp)
  | read (task : Nat) (now : Timestamp)
  /-- A task accesses the store, or answers its request. -/
  | call (task : Nat)
  | expire (now : Timestamp) (age : Int)

/-- The task that a move advances. -/
def Move.task? : Move → Option Nat
  | .load i _ | .evaluate i _ _ | .read i _ | .call i => some i
  | _ => none

def Move.isExpiry : Move → Bool
  | .expire .. => true
  | _ => false

namespace Walk

/-- The way of a run that has been found. -/
def setOut (mode : DependencyMode) (a : Assignment) (since : Nat) : Walk :=
  ⟨a.run, a.event, a.run.candidates mode a.event, none, since⟩

/-- The first step has given nothing, or its action was refused. -/
def skip (w : Walk) : Walk := { w with steps := w.steps.tail, draft := none }

/-- The action of a step is in the store. -/
def stored (w : Walk) (step : Step) (a : Action) : Walk :=
  { w.skip with run := { w.run with actions := w.run.actions.insert step.id a } }

end Walk

namespace Floor

/-- Before anything has happened. -/
def empty (mode : DependencyMode) : Floor := ⟨mode, .empty, ∅, [], [], []⟩

/-- New tasks begin. -/
def begin (s : Floor) (tasks : List Task) : Floor := { s with tasks := s.tasks ++ tasks }

/-- A task advances. -/
def put (s : Floor) (i : Nat) (t : Task) : Floor := { s with tasks := s.tasks.set i t }

def give (s : Floor) (i : Nat) (ids : List String) : Floor :=
  { s with given := s.given ++ ids.map fun id => (id, i) }

/-- A task advances by a write that the store has accepted. -/
def accept (s : Floor) (i : Nat) (a : Action) (actions : ActionStore) (t : Task) : Floor :=
  { s.put i t with actions, journal := s.journal ++ [⟨i, a⟩] }

/-- The identifiers that were given out. -/
def names (s : Floor) : List String := s.given.map Prod.fst

/-- A flow is stored as a new version if it is valid. -/
def register (s : Floor) (flow : FlowDefinition) (uuid : Uuid) : Floor :=
  match flow.validate with
  | .ok _ =>
    if s.flows.history.any fun f => f.uuid == some uuid then s
    else { s with flows := (s.flows.add { flow with uuid := none } uuid).2 }
  | .error _ => s

def beginComplete (s : Floor) (pack : Pack) (id : String) (result : Event) : Floor :=
  match Broker.find s.actions id with
  | .ok a => s.begin [.complete pack a result none]
  | .error e => s.begin [.completed pack id none (.error e) false]

/-- The runs that a report moves. -/
def found (s : Floor) (ids : List String) : Report → List Assignment
  | .published event => Dispatch.start s.flows event fun n => ids.getD n ""
  | .completed a => (Dispatch.resume s.flows s.actions a).toList

/-- How many identifiers a dispatch needs. -/
def demand (s : Floor) : Report → Nat
  | .published event => (s.flows.findByEvent event).length
  | .completed _ => 0

/-- Whether identifiers are distinct and have not been given out. -/
def areFresh (s : Floor) (ids : List String) : Bool :=
  decide (ids.Nodup ∧ ∀ id ∈ ids, id ∉ s.names)

def load (s : Floor) (i : Nat) (ids : List String) : Floor :=
  match s.tasks[i]? with
  | some (.dispatch report false) =>
    if ids.length = s.demand report && s.areFresh ids then
      ((s.give i ids).put i (.dispatch report true)).begin <|
        (s.found ids report).map fun a => .walk (.setOut s.mode a s.journal.length)
    else s
  | _ => s

def evaluate (s : Floor) (i : Nat) (renderer : Renderer) (stamp : Stamp) : Floor :=
  match s.tasks[i]? with
  | some (.walk w) =>
    match w.steps, w.draft with
    | step :: _, none =>
      match step.evaluate renderer w.event w.run.context stamp with
      | .ok (some a) =>
        if s.areFresh [stamp.id] then
          (s.give i [stamp.id]).put i (.walk { w with draft := some (w.run.adopt step a) })
        else s
      | _ => s.put i (.walk w.skip)
    | _, _ => s
  | _ => s

def read (s : Floor) (i : Nat) (now : Timestamp) : Floor :=
  match s.tasks[i]? with
  | some (.take pack (a :: rest) none) => s.put i (.take pack (a :: rest) (some now))
  | some (.complete pack a result none) => s.put i (.complete pack a result (some now))
  | _ => s

def callWalk (s : Floor) (i : Nat) (w : Walk) : Floor :=
  match w.steps, w.draft with
  | step :: _, some a =>
    match s.actions.add a with
    | .ok (stored, actions) => s.accept i stored actions (.walk (w.stored step stored))
    | .error _ => s.put i (.walk w.skip)
  | _, _ => s

def callTake (s : Floor) (i : Nat) (pack : Pack) : List Action → Option Timestamp → Floor
  | [], _ => s.put i (.taken pack (.ok none))
  | a :: rest, some now =>
    match Broker.claim s.actions a now with
    | .ok (taken, actions) => s.accept i taken actions (.taken pack (.ok (some taken)))
    | .error (.illegalTransition ..) => s.put i (.take pack rest none)
    | .error e => s.put i (.taken pack (.error e))
  | _ :: _, none => s

def callComplete (s : Floor) (i : Nat) (pack : Pack) (a : Action) (result : Event)
    (now : Timestamp) : Floor :=
  match Broker.settle s.actions pack a result now with
  | .ok (some completed, actions) =>
    s.accept i completed actions (.completed pack a.id (some a) (.ok (some completed)) false)
  | .ok (none, _) => s.put i (.completed pack a.id (some a) (.ok none) false)
  | .error e => s.put i (.completed pack a.id (some a) (.error e) false)

/-- A request is answered; what it has completed is dispatched. -/
def answer (s : Floor) (i : Nat) (pack : Pack) (id : String) (read : Option Action)
    (outcome : Except Error (Option Action)) : Floor :=
  let s := s.put i (.completed pack id read outcome true)
  match outcome with
  | .ok (some a) => s.begin [.dispatch (.completed a) false]
  | _ => s

def call (s : Floor) (i : Nat) : Floor :=
  match s.tasks[i]? with
  | some (.walk w) => s.callWalk i w
  | some (.take pack queue reading) => s.callTake i pack queue reading
  | some (.complete pack a result (some now)) => s.callComplete i pack a result now
  | some (.completed pack id read outcome false) => s.answer i pack id read outcome
  | _ => s

def expire (s : Floor) (now : Timestamp) (age : Int) : Floor :=
  match s.actions.expire? now age with
  | some (_, actions) => { s with actions }
  | none => s

def step (s : Floor) : Move → Floor
  | .register flow uuid => s.register flow uuid
  | .unregister name => { s with flows := (s.flows.remove name).2 }
  | .publish event => s.begin [.dispatch (.published event) false]
  | .beginTake pack name => s.begin [.take pack (Broker.candidates s.actions pack name) none]
  | .beginComplete pack id result => s.beginComplete pack id result
  | .load i ids => s.load i ids
  | .evaluate i renderer stamp => s.evaluate i renderer stamp
  | .read i now => s.read i now
  | .call i => s.call i
  | .expire now age => s.expire now age

/-- The state after some moves. -/
def run (mode : DependencyMode) (moves : List Move) : Floor := moves.foldl step (empty mode)

theorem run_append (mode : DependencyMode) (before after : List Move) :
    run mode (before ++ after) = after.foldl step (run mode before) :=
  List.foldl_append

theorem run_snoc (mode : DependencyMode) (moves : List Move) (move : Move) :
    run mode (moves ++ [move]) = (run mode moves).step move :=
  run_append mode moves [move]

/-- What holds at the beginning and is kept by every move holds after every run. -/
theorem run_induction {mode : DependencyMode} {P : Floor → Prop} (hempty : P (empty mode))
    (hstep : ∀ s move, P s → P (s.step move)) (moves : List Move) : P (run mode moves) := by
  unfold run
  suffices ∀ s, P s → P (moves.foldl step s) from this _ hempty
  induction moves with
  | nil => exact fun s hs => hs
  | cons move rest ih => exact fun s hs => ih _ (hstep s move hs)

end Floor

end Orchestrator
