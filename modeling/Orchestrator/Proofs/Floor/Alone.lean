import Orchestrator.Proofs.Broker.Attempt
import Orchestrator.Proofs.Floor.Effect
import Orchestrator.Proofs.Flow.OneByOne

/-!
Tasks that no other task comes between. Their moves together do what the service does at one stroke:
a call that takes ends as `Broker.take` does, a call that completes ends as `Broker.complete` does,
the runs of a report are those that `Hub.load` finds, and a walk stores what `Hub.process` creates.
-/

namespace Orchestrator

namespace Broker

/-- The store after an operation. One that fails changes nothing. -/
def storeAfter (s : ActionStore) : Except Error (Option Action × ActionStore) → ActionStore
  | .ok (_, s) => s
  | .error _ => s

end Broker

namespace Floor

/-- One task alone brings the floor from one state to another. -/
inductive Alone (i : Nat) : Floor → Floor → Prop where
  | done (s : Floor) : Alone i s s
  | move {s t s' : Floor} (move : Move) (hmine : move.task? = some i) (hstep : s.step move = t)
      (hrest : Alone i t s') : Alone i s s'

theorem Alone.trans {i : Nat} {s t s' : Floor} (h : Alone i s t) (h' : Alone i t s') :
    Alone i s s' := by
  induction h with
  | done s => exact h'
  | move move hmine hstep _ ih => exact .move move hmine hstep (ih h')

/-! ## Taking and completing -/

/-- A taker reads the clock and tries the first of the actions that were read. -/
theorem Alone.attempt {s s' : Floor} {i : Nat} {pack : Pack} {a : Action} {rest : List Action}
    (htask : s.tasks[i]? = some (.take pack (a :: rest) none)) (now : Timestamp)
    (h : Alone i ((s.put i (.take pack (a :: rest) (some now))).callTake i pack (a :: rest)
      (some now)) s') : Alone i s s' := by
  have hlt : i < s.tasks.length := (List.getElem?_eq_some_iff.1 htask).1
  have hread : s.step (.read i now) = s.put i (.take pack (a :: rest) (some now)) := by
    simp only [step, read, htask]
  refine .move _ rfl hread (.move (.call i) rfl ?_ h)
  simp only [step, call, put, List.getElem?_set_self hlt]

theorem Alone.conclude {s s' : Floor} {i : Nat} {pack : Pack} {a : Action} {result : Event}
    (htask : s.tasks[i]? = some (.complete pack a result none)) (now : Timestamp)
    (h : Alone i ((s.put i (.complete pack a result (some now))).callComplete i pack a result
      now) s') : Alone i s s' := by
  have hlt : i < s.tasks.length := (List.getElem?_eq_some_iff.1 htask).1
  have hread : s.step (.read i now) = s.put i (.complete pack a result (some now)) := by
    simp only [step, read, htask]
  refine .move _ rfl hread (.move (.call i) rfl ?_ h)
  simp only [step, call, put, List.getElem?_set_self hlt]

theorem queue_alone (pack : Pack) (now : Timestamp) (queue : List Action) {s : Floor} {i : Nat}
    (htask : s.tasks[i]? = some (.take pack queue none)) :
    ∃ s', Alone i s s' ∧
      s'.tasks[i]? = some (.taken pack ((Broker.takeFirst s.actions now queue).map Prod.fst)) ∧
      s'.actions = Broker.storeAfter s.actions (Broker.takeFirst s.actions now queue) := by
  have hlt : i < s.tasks.length := (List.getElem?_eq_some_iff.1 htask).1
  induction queue generalizing s with
  | nil =>
      refine ⟨s.put i (.taken pack (.ok none)), .move (.call i) rfl ?_ (.done _), ?_, rfl⟩
      · simp only [step, call, htask, callTake]
      · simp [put, hlt, Broker.takeFirst, Except.map]
  | cons a rest ih =>
      suffices ∃ s', Alone i ((s.put i (.take pack (a :: rest) (some now))).callTake i pack
          (a :: rest) (some now)) s' ∧ _ by
        obtain ⟨s', halone, hend⟩ := this
        exact ⟨s', halone.attempt htask now, hend⟩
      simp only [callTake, put, Broker.takeFirst]
      cases hclaim : Broker.claim s.actions a now with
      | ok claimed =>
          refine ⟨_, .done _, ?_, rfl⟩
          simp [accept, put, hlt, Except.map]
      | error e =>
          cases e
          case illegalTransition => exact ih (by simp [hlt]) (by simpa using hlt)
          all_goals
            refine ⟨_, .done _, ?_, rfl⟩
            simp [hlt, Except.map]

theorem take_alone (s : Floor) (pack : Pack) (name : Option String) (now : Timestamp) :
    ∃ s', Alone s.tasks.length (s.step (.beginTake pack name)) s' ∧
      s'.tasks[s.tasks.length]? =
        some (.taken pack ((Broker.take s.actions pack name now).map Prod.fst)) ∧
      s'.actions = Broker.storeAfter s.actions (Broker.take s.actions pack name now) :=
  queue_alone pack now (Broker.candidates s.actions pack name) (by simp [step, begin])

theorem complete_alone (s : Floor) (pack : Pack) (id : String) (result : Event) (now : Timestamp) :
    ∃ s' id' read, Alone s.tasks.length (s.step (.beginComplete pack id result)) s' ∧
      s'.tasks[s.tasks.length]? = some (.completed pack id' read
        ((Broker.complete s.actions pack id result now).map Prod.fst) false) ∧
      s'.actions = Broker.storeAfter s.actions (Broker.complete s.actions pack id result now) := by
  simp only [step, beginComplete, Broker.complete, bind, Except.bind]
  cases hfind : Broker.find s.actions id with
  | error e => exact ⟨_, id, none, .done _, by simp [begin, Except.map], rfl⟩
  | ok a =>
      suffices ∃ s', Alone s.tasks.length (((s.begin [.complete pack a result none]).put
          s.tasks.length (.complete pack a result (some now))).callComplete s.tasks.length pack a
            result now) s' ∧ _ by
        obtain ⟨s', halone, hend⟩ := this
        exact ⟨s', a.id, some a, halone.conclude (by simp [begin]) now, hend⟩
      simp only [callComplete, put, begin]
      cases hsettle : Broker.settle s.actions pack a result now with
      | error e =>
          refine ⟨_, .done _, ?_, rfl⟩
          simp [Except.map]
      | ok settled =>
          obtain ⟨outcome, actions⟩ := settled
          cases outcome with
          | none =>
              refine ⟨_, .done _, ?_, (Broker.settle_eq_ok_none.1 hsettle).2.symm⟩
              simp [Except.map]
          | some completed =>
              refine ⟨_, .done _, ?_, rfl⟩
              simp [accept, put, Except.map]

/-! ## Finding runs and moving them -/

theorem found_eq_load (s : Floor) (h : Hub) (hflows : h.flows = s.flows)
    (hactions : h.actions = s.actions) (report : Report) :
    s.found ((List.range (s.demand report)).map fun n => (h.supply (h.used + n)).id) report =
      (h.load report).1 := by
  cases report with
  | published event =>
      simp only [found, Hub.load, demand, Dispatch.start, hflows]
      refine List.map_congr_left fun pair hpair => ?_
      have hn : pair.2 < (s.flows.findByEvent event).length :=
        List.mem_range.1 (List.of_mem_zip hpair).2
      simp [hn]
  | completed a => simp only [found, Hub.load, hflows, hactions]

/-- A turn comes to an action that nobody has the identifier of, and the walk holds it. -/
theorem evaluate_some {s : Floor} {i : Nat} {w : Walk} {step : Step} {rest : List Step}
    {renderer : Renderer} {stamp : Stamp} {a : Action}
    (htask : s.tasks[i]? = some (.walk w)) (hsteps : w.steps = step :: rest)
    (hdraft : w.draft = none)
    (hsome : step.evaluate renderer w.event w.run.context stamp = .ok (some a))
    (hfresh : stamp.id ∉ s.names) :
    s.step (.evaluate i renderer stamp) =
      (s.give i [stamp.id]).put i (.walk { w with draft := some (w.run.adopt step a) }) := by
  have hdrawn : s.areFresh [stamp.id] = true := by simp [areFresh, hfresh]
  simp only [Floor.step, evaluate, htask, hsteps, hdraft, hsome, hdrawn, if_true]

theorem evaluate_not_some {s : Floor} {i : Nat} {w : Walk} {step : Step} {rest : List Step}
    {renderer : Renderer} {stamp : Stamp}
    (htask : s.tasks[i]? = some (.walk w)) (hsteps : w.steps = step :: rest)
    (hdraft : w.draft = none)
    (hnot : ∀ a, step.evaluate renderer w.event w.run.context stamp ≠ .ok (some a)) :
    s.step (.evaluate i renderer stamp) = s.put i (.walk w.skip) := by
  simp only [Floor.step, evaluate, htask, hsteps, hdraft]

/-- A walk is as far as the service is when it moves the run at one stroke. -/
structure Abreast (h : Hub) (i since : Nat) (journal : List Entry) (event : Event) (stop : Nat)
    (s : Floor) (steps : List Step) (p : Progress ActionStore) : Prop where
  store : s.actions = p.store
  walk : s.tasks[i]? = some (.walk ⟨p.run, event, steps, none, since⟩)
  fresh : Unspent (· ∈ s.names) h.supply p.turn stop
  room : p.turn + steps.length ≤ stop
  created : s.journal = journal ++ p.created.map fun a => ⟨i, a⟩

section

variable {h : Hub} {i since : Nat} {journal : List Entry} {event : Event} {stop : Nat}

/-- A turn evaluates its step and stores the action, if there is one. -/
theorem Abreast.turn {s : Floor} {step : Step} {rest : List Step} {p : Progress ActionStore}
    (habreast : Abreast h i since journal event stop s (step :: rest) p) :
    ∃ s', Alone i s s' ∧
      Abreast h i since journal event stop s' rest (h.engine.takeTurn event p step) := by
  obtain ⟨hstore, hwalk, hfresh, hroom, hcreated⟩ := habreast
  have hnext : p.turn + 1 + rest.length ≤ stop := by
    rw [List.length_cons] at hroom
    omega
  have hlt : i < s.tasks.length := (List.getElem?_eq_some_iff.1 hwalk).1
  by_cases hsome : ∃ a, step.evaluate h.engine.renderer event p.run.context (h.supply p.turn) =
      .ok (some a)
  · obtain ⟨a, ha⟩ := hsome
    have hevaluate := evaluate_some hwalk rfl rfl ha
      (hfresh.unused _ (Nat.le_refl _) (by omega))
    have hheld : ((s.give i [(h.supply p.turn).id]).put i (.walk ⟨p.run, event, step :: rest,
        some (p.run.adopt step a), since⟩)).tasks[i]? = some (.walk ⟨p.run, event, step :: rest,
          some (p.run.adopt step a), since⟩) := by
      simp [put, give, hlt]
    have hdrawn : Unspent (· ∈ (s.give i [(h.supply p.turn).id]).names) h.supply (p.turn + 1)
        stop := by
      refine hfresh.drawn fun id hid => ?_
      rw [names_give] at hid
      exact (List.mem_append.1 hid).imp_right List.mem_singleton.1
    cases hadd : s.actions.add (p.run.adopt step a) with
    | ok added =>
        have hcall := step_call_stored hheld rfl rfl hadd
        rw [Hub.takeTurn_stored ha (hstore ▸ hadd)]
        refine ⟨_, .move _ rfl hevaluate (.move _ rfl hcall (.done _)), rfl, ?_,
          hdrawn, hnext, ?_⟩
        · simp [accept, put, give, hlt, Walk.stored, Walk.skip]
        · simp [accept, put, give, hcreated]
    | error e =>
        have hcall := step_call_refused hheld rfl rfl hadd
        rw [Hub.takeTurn_refused ha (hstore ▸ hadd)]
        refine ⟨_, .move _ rfl hevaluate (.move _ rfl hcall (.done _)), hstore, ?_,
          hdrawn, hnext, hcreated⟩
        simp [put, give, hlt, Walk.skip]
  · have hevaluate := evaluate_not_some hwalk rfl rfl (fun a ha => hsome ⟨a, ha⟩)
    rw [Hub.takeTurn_passed fun a ha => hsome ⟨a, ha⟩]
    refine ⟨_, .move _ rfl hevaluate (.done _), hstore, ?_, hfresh.later, hnext, hcreated⟩
    simp [put, hlt, Walk.skip]

theorem Abreast.turns {s : Floor} {steps : List Step} {p : Progress ActionStore}
    (habreast : Abreast h i since journal event stop s steps p) :
    ∃ s', Alone i s s' ∧
      Abreast h i since journal event stop s' [] (steps.foldl (h.engine.takeTurn event) p) := by
  induction steps generalizing s p with
  | nil => exact ⟨s, .done s, habreast⟩
  | cons step rest ih =>
      obtain ⟨t, hfirst, hturn⟩ := habreast.turn
      obtain ⟨s', hrest, hend⟩ := ih hturn
      exact ⟨s', hfirst.trans hrest, hend⟩

end

theorem process_alone (s : Floor) (h : Hub) (hactions : s.actions = h.actions) {i since : Nat}
    {a : Assignment} (hwalk : s.tasks[i]? = some (.walk (.setOut h.mode a since)))
    (hfresh : Unspent (· ∈ s.names) h.supply h.used
      (h.used + (a.run.candidates h.mode a.event).length)) :
    ∃ s', Alone i s s' ∧ s'.actions = (h.process a).2.actions ∧
      s'.journal = s.journal ++ (h.process a).1.map fun a => ⟨i, a⟩ := by
  have hstart : Abreast h i since s.journal a.event _ s (a.run.candidates h.mode a.event)
      ⟨h.actions, a.run, [], h.used⟩ := ⟨hactions, hwalk, hfresh, Nat.le_refl _, by simp⟩
  obtain ⟨s', halone, hend⟩ := hstart.turns
  exact ⟨s', halone, hend.store, hend.created⟩

end Floor

end Orchestrator
