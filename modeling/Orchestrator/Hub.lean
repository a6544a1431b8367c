import Orchestrator.Broker
import Orchestrator.Dispatch
import Orchestrator.Store.Pack

/-!
The whole state of an orchestrator, and the work that is still to be done on it.

A report is dispatched in two phases: first the runs that it moves are found, then each of them is
moved forward on its own. Between the phases other work may be done, so a report and an assignment
each wait in a list of their own; `settle` does all that waits, in the order in which it came.
-/

namespace Orchestrator

/-- Something reported whose runs have still to be found. -/
inductive Report where
  /-- An event that a pack has published. -/
  | published (event : Event)
  /-- An action that has got its result. -/
  | completed (action : Action)
  deriving DecidableEq, Repr, Inhabited

/-- The state of an orchestrator. -/
structure Hub where
  mode : DependencyMode
  packs : PackStore
  flows : FlowStore
  actions : ActionStore
  data : DataStore
  /-- The reports whose runs have still to be found. -/
  reports : List Report
  /-- The runs that have still to be moved forward. -/
  assignments : List Assignment
  /-- Where fresh identifiers and clock readings come from. -/
  supply : Nat → Stamp
  /-- How many of them have been used. -/
  used : Nat

namespace Hub

/-- An orchestrator that knows nothing yet. -/
def empty (mode : DependencyMode) (supply : Nat → Stamp) : Hub :=
  { mode, packs := ∅, flows := .empty, actions := ∅, data := ∅, reports := [], assignments := [],
    supply, used := 0 }

/-- The next fresh identifier and clock reading. -/
def draw (s : Hub) : Stamp × Hub := (s.supply s.used, { s with used := s.used + 1 })

/-- The engine that moves runs over the stored actions. -/
def engine (s : Hub) : Engine ActionStore where
  mode := s.mode
  renderer := templateRenderer s.data s.used
  add store action :=
    match store.add action with
    | .ok (stored, store) => (.ok stored, store)
    | .error e => (.error e, store)
  stamp := s.supply

/-- Finds the runs that a report moves. -/
def load (s : Hub) : Report → List Assignment × Hub
  | .published event =>
    let runs := Dispatch.start s.flows event fun i => (s.supply (s.used + i)).id
    (runs, { s with used := s.used + runs.length })
  | .completed action => ((Dispatch.resume s.flows s.actions action).toList, s)

/-- Moves a run forward, and gives the actions that were created. -/
def process (s : Hub) (a : Assignment) : List Action × Hub :=
  let progress := s.engine.process s.actions a.run a.event s.used
  (progress.created, { s with actions := progress.store, used := progress.turn })

/-- Moves runs forward one after the other, and gives what was created for each. -/
def processEach (s : Hub) : List Assignment → List (List Action) × Hub
  | [] => ([], s)
  | a :: rest =>
    let (created, s) := s.process a
    let (others, s) := s.processEach rest
    (created :: others, s)

/-- Adds a report to those that wait. -/
def submit (s : Hub) (report : Report) : Hub :=
  { s with reports := s.reports ++ [report] }

/-- Finds the runs of a report, which from then on wait to be moved. -/
def assign (s : Hub) (report : Report) : Hub :=
  let (runs, s) := s.load report
  { s with assignments := s.assignments ++ runs }

/-- Finds the runs of all reports that wait. -/
def assignAll (s : Hub) : Hub := s.reports.foldl assign { s with reports := [] }

/-- Does all the work that waits. -/
def settle (s : Hub) : Hub :=
  let s := s.assignAll
  ({ s with assignments := [] }.processEach s.assignments).2

/-- Removes the actions that have been in one state for more than a number of seconds. A limit beyond
the calendar removes nothing. -/
def expire (s : Hub) (now : Timestamp) (age : Int) : Hub :=
  match s.actions.expire? now age with
  | some (_, actions) => { s with actions }
  | none => s

/-- Removes the packs that were not seen for more than a number of seconds. A limit beyond the
calendar removes nothing. -/
def sweep (s : Hub) (now : Timestamp) (grace : Int) : Hub :=
  match s.packs.sweepDead? now grace with
  | some (_, packs) => { s with packs }
  | none => s

/-- The pack with an identifier, which counts as seen now. -/
def seen (s : Hub) (id : String) : Except Error (Pack × Hub) := do
  let pack ← s.packs.require id
  let (stamp, s) := s.draw
  pure (pack, { s with packs := (s.packs.touch pack.id stamp.time).2 })

end Hub

end Orchestrator
