import Orchestrator.Store.Action

/-!
Taking and completing actions.

Packs ask for work and report what became of it. Each of these has a part that reads the store and a
part that writes to it; between the two other packs may come first, so the parts are separate.
-/

namespace Orchestrator

namespace Broker

/-- The actions that a pack may take, in the order of the queue. -/
def candidates (s : ActionStore) (pack : Pack) (name : Option String) : List Action :=
  (s.findNew pack.name name).filter fun a => pack.serves a.packName a.packLabels

/-- Tries to take an action as it was read. -/
def claim (s : ActionStore) (a : Action) (now : Timestamp) : Except Error (Action × ActionStore) :=
  a.take now >>= s.update

/-- Takes the first action that nobody else has moved. -/
def takeFirst (s : ActionStore) (now : Timestamp) :
    List Action → Except Error (Option Action × ActionStore)
  | [] => .ok (none, s)
  | a :: rest =>
    match claim s a now with
    | .ok (taken, s) => .ok (some taken, s)
    | .error (.illegalTransition ..) => takeFirst s now rest
    | .error e => .error e

/-- Takes the oldest action that a pack may take. -/
def take (s : ActionStore) (pack : Pack) (name : Option String) (now : Timestamp) :
    Except Error (Option Action × ActionStore) :=
  takeFirst s now (candidates s pack name)

/-- The action that a result is for. -/
def find (s : ActionStore) (id : String) : Except Error Action :=
  match s.get? id with
  | some a => .ok a
  | none => .error (.actionNotFound id)

/-- Records the result of an action as it was read. A pack that does not serve the action changes
nothing. -/
def settle (s : ActionStore) (pack : Pack) (a : Action) (result : Event) (now : Timestamp) :
    Except Error (Option Action × ActionStore) :=
  if pack.serves a.packName a.packLabels then do
    let completed ← a.complete result now
    let (stored, s) ← s.update completed
    pure (some stored, s)
  else .ok (none, s)

/-- Records the result of an action. -/
def complete (s : ActionStore) (pack : Pack) (id : String) (result : Event) (now : Timestamp) :
    Except Error (Option Action × ActionStore) := do
  let a ← find s id
  settle s pack a result now

end Broker

end Orchestrator
