import Orchestrator.Action

/-!
The store of actions, the only place where packs that work at the same time meet.

A moved action is accepted only while the stored one is still in the state that the move left, so of
several movers one wins. The stored history is what an accepted move is added to.
-/

namespace Orchestrator

/-- The actions by identifier. -/
abbrev ActionStore := Dict Action

namespace ActionStore

/-- Puts in a new action. -/
def add (s : ActionStore) (a : Action) : Except Error (Action × ActionStore) :=
  if s.contains a.id then .error (.alreadyExists ("action " ++ a.id))
  else
    let stored := { a with previous := none }
    .ok (stored, s.insert a.id stored)

/-- Replaces an action by a moved one. -/
def update (s : ActionStore) (a : Action) : Except Error (Action × ActionStore) :=
  match s.get? a.id with
  | none => .error (.actionNotFound a.id)
  | some stored =>
    if a.previous = some stored.state.value then
      let accepted := { a with history := stored.history ++ [a.state], previous := none }
      .ok (accepted, s.insert a.id accepted)
    else .error (.illegalTransition a.id stored.state.value a.state.value)

/-- Whether an action comes before another in the queue: the older state first, then the smaller
identifier. -/
def precedes (a b : Action) : Bool :=
  match a.state.time.order b.state.time with
  | .lt => true
  | .eq => a.id ≤ b.id
  | .gt => false

/-- Whether an action is new and addressed to packs of a name, with a command if one is given. -/
def isWaiting (packName : String) (name : Option String) (a : Action) : Bool :=
  a.state.value == .new && a.packName == packName && name.all fun name => a.name == name

/-- The new actions addressed to packs of a name, in the order of the queue. -/
def findNew (s : ActionStore) (packName : String) (name : Option String) : List Action :=
  (s.values.filter (isWaiting packName name)).mergeSort precedes

/-- The actions of one run of a flow. They are listed by identifier here, but the store does not say
in which order it lists them. -/
def findCorrelated (s : ActionStore) (correlationId : String) : List Action :=
  s.values.filter fun a => a.correlationId == correlationId

/-- Removes the actions whose state is older than a number of seconds, and counts them. There is no
answer if the limit lies beyond the calendar. -/
def expire? (s : ActionStore) (now : Timestamp) (ttl : Int) : Option (Nat × ActionStore) := do
  let limit ← now.addSeconds? (-ttl)
  let kept := s.filter fun _ a => limit ≤ a.state.time
  pure (s.size - kept.size, kept)

end ActionStore

end Orchestrator
