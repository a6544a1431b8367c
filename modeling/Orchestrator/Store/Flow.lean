import Orchestrator.Flow.Definition

/-!
The store of flows: the latest definition under each name, and every definition that was ever stored.

Runs go on with the version they began with, which is found by its identifier also after the flow
has been replaced or removed.
-/

namespace Orchestrator

/-- The stored flows. -/
structure FlowStore where
  /-- The latest definitions by name. -/
  latest : Dict FlowDefinition
  /-- All definitions that were stored, the last one first. -/
  history : List FlowDefinition
  deriving DecidableEq, Repr, Inhabited

namespace FlowStore

def empty : FlowStore := ⟨∅, []⟩

/-- Stores a definition, under a fresh identifier unless it has one. -/
def add (s : FlowStore) (flow : FlowDefinition) (fresh : Uuid) : FlowDefinition × FlowStore :=
  let stored := { flow with uuid := some (flow.uuid.getD fresh) }
  (stored, ⟨s.latest.insert stored.name stored, stored :: s.history⟩)

/-- Removes the latest definition under a name, and says whether there was one. -/
def remove (s : FlowStore) (name : String) : Bool × FlowStore :=
  (s.latest.contains name, { s with latest := s.latest.erase name })

def get? (s : FlowStore) (name : String) : Option FlowDefinition := s.latest.get? name

/-- The latest definitions in the order of their names. -/
def findAll (s : FlowStore) : List FlowSummary := s.latest.values.map FlowDefinition.summary

/-- The latest definitions that an event starts, in the order of their names. -/
def findByEvent (s : FlowStore) (event : Event) : List FlowDefinition :=
  s.latest.values.filter fun flow => flow.isEnteredBy event

/-- The definition that was stored under an identifier. -/
def getByUuid? (s : FlowStore) (uuid : Uuid) : Option FlowDefinition :=
  s.history.find? fun flow => flow.uuid == some uuid

end FlowStore

end Orchestrator
