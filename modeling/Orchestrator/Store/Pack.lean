import Orchestrator.Error
import Orchestrator.Pack

/-!
The registered packs and when they were last seen.
-/

namespace Orchestrator

/-- The packs by identifier. -/
abbrev PackStore := Dict Pack

namespace PackStore

/-- Puts in a pack, in place of one with its identifier. -/
def upsert (s : PackStore) (p : Pack) : PackStore := s.insert p.id p

/-- Whether a pack comes before another in listings. -/
def precedes (a b : Pack) : Bool := a.name < b.name || (a.name == b.name && a.id ≤ b.id)

/-- All packs by name and identifier. -/
def findAll (s : PackStore) : List Pack := s.values.mergeSort precedes

/-- Says when a pack was last seen. Gives whether the pack is known. -/
def touch (s : PackStore) (id : String) (moment : Timestamp) : Bool × PackStore :=
  match s.get? id with
  | some p => (true, s.insert id { p with lastSeen := moment })
  | none => (false, s)

/-- Removes the packs last seen before a moment, and gives their identifiers, whose order says
nothing. -/
def removeSeenBefore (s : PackStore) (limit : Timestamp) : List String × PackStore :=
  ((s.filter fun _ p => p.lastSeen < limit).keys, s.filter fun _ p => !decide (p.lastSeen < limit))

/-- Registers a pack, which counts as seen now. Its identifier is derived again. -/
def register (s : PackStore) (p : Pack) (now : Timestamp) : Pack × PackStore :=
  let p := { p.refreshId with lastSeen := now }
  (p, s.upsert p)

/-- The pack with an identifier. -/
def require (s : PackStore) (id : String) : Except Error Pack :=
  match s.get? id with
  | some p => .ok p
  | none => .error (.packNotFound id)

/-- Removes the pack with an identifier. -/
def remove (s : PackStore) (id : String) : Except Error PackStore :=
  if s.contains id then .ok (s.erase id) else .error (.packNotFound id)

/-- Removes the packs that were not seen for a number of seconds, and gives their identifiers.
There is no answer if the limit lies beyond the calendar. -/
def sweepDead? (s : PackStore) (now : Timestamp) (grace : Int) :
    Option (List String × PackStore) :=
  (now.addSeconds? (-grace)).map s.removeSeenBefore

end PackStore

end Orchestrator
