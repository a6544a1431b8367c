import Mathlib.Data.List.Forall2
import Orchestrator.Proofs.Flow.Yield

/-!
New runs that are moved one after the other, each at one stroke. Every run leaves behind what its
flow yields, whatever the runs before it have left behind, as long as templates draw nothing at
random.
-/

namespace Orchestrator

/-- The identifiers from one turn up to another are distinct, and none of them is in use. -/
structure Unspent (inUse : String → Prop) (supply : Nat → Stamp) (turn stop : Nat) : Prop where
  unused : ∀ n, turn ≤ n → n < stop → ¬ inUse (supply n).id
  distinct : ∀ m n, turn ≤ m → m < n → n < stop → (supply m).id ≠ (supply n).id

namespace Unspent

variable {inUse inUse' : String → Prop} {supply : Nat → Stamp} {turn stop : Nat}

theorem drawn (h : Unspent inUse supply turn stop)
    (huse : ∀ id, inUse' id → inUse id ∨ id = (supply turn).id) :
    Unspent inUse' supply (turn + 1) stop where
  unused := by
    intro n hn hstop hused
    rcases huse _ hused with hold | hnew
    · exact h.unused n (by omega) hstop hold
    · exact h.distinct turn n (Nat.le_refl _) (by omega) hstop hnew.symm
  distinct := fun m n hm => h.distinct m n (by omega)

theorem later (h : Unspent inUse supply turn stop) : Unspent inUse supply (turn + 1) stop :=
  h.drawn fun _ hold => .inl hold

end Unspent

/-- Renderers make the same of all templates of a flow. -/
def FlowDefinition.ReadAlike (f : FlowDefinition) (r r' : Renderer) : Prop :=
  ∀ step ∈ f.steps, r.AgreeOn r' step.sources

namespace Hub

section

variable {h : Hub} {event : Event} {p : Progress ActionStore}

section

variable {step : Step} {a : Action}

theorem takeTurn_stored {added : Action × ActionStore}
    (hsome : step.evaluate h.engine.renderer event p.run.context (h.supply p.turn) = .ok (some a))
    (hadd : p.store.add (p.run.adopt step a) = .ok added) :
    h.engine.takeTurn event p step =
      ⟨added.2, { p.run with actions := p.run.actions.insert step.id added.1 },
        p.created ++ [added.1], p.turn + 1⟩ := by
  simp only [Engine.takeTurn, Hub.engine] at hsome ⊢
  simp only [hsome, hadd]

theorem takeTurn_refused {e : Error}
    (hsome : step.evaluate h.engine.renderer event p.run.context (h.supply p.turn) = .ok (some a))
    (hadd : p.store.add (p.run.adopt step a) = .error e) :
    h.engine.takeTurn event p step = { p with turn := p.turn + 1 } := by
  simp only [Engine.takeTurn, Hub.engine] at hsome ⊢
  simp only [hsome, hadd]

theorem takeTurn_passed
    (hnot : ∀ a, step.evaluate h.engine.renderer event p.run.context (h.supply p.turn) ≠
      .ok (some a)) : h.engine.takeTurn event p step = { p with turn := p.turn + 1 } := by
  simp only [Engine.takeTurn]
  split
  · exact absurd ‹_› (hnot _)
  · rfl

end

theorem turn_takeTurn (event : Event) (p : Progress ActionStore) (step : Step) :
    (h.engine.takeTurn event p step).turn = p.turn + 1 := by
  unfold Engine.takeTurn
  split
  · split <;> rfl
  · rfl

theorem turn_foldl_takeTurn (steps : List Step) (p : Progress ActionStore) :
    (steps.foldl (h.engine.takeTurn event) p).turn = p.turn + steps.length := by
  induction steps generalizing p with
  | nil => rfl
  | cons step rest ih =>
      rw [List.foldl_cons, ih, turn_takeTurn, List.length_cons]
      omega

variable {before : ActionStore} {f : FlowDefinition} {r : Renderer} {stop : Nat}
  {done : List Step}

/-- Some steps of a new run have had their turn. -/
structure Yielded (before : ActionStore) (supply : Nat → Stamp) (stop : Nat) (f : FlowDefinition)
    (r : Renderer) (event : Event) (done : List Step) (p : Progress ActionStore) : Prop where
  flow : p.run.flow = f
  context : p.run.context = ∅
  adds : before.Adds p.store p.created
  bare : p.created.map Action.bare = done.filterMap (f.yield? r event)
  fresh : Unspent (fun id => p.store.contains id = true) supply p.turn stop

theorem Yielded.turn {step : Step} (hp : Yielded before h.supply stop f r event done p)
    (hagree : h.engine.renderer.AgreeOn r step.sources) (hturn : p.turn < stop) :
    Yielded before h.supply stop f r event (done ++ [step]) (h.engine.takeTurn event p step) := by
  by_cases hsome : ∃ a, step.evaluate h.engine.renderer event p.run.context (h.supply p.turn) =
      .ok (some a)
  · obtain ⟨a, ha⟩ := hsome
    obtain ⟨hyield, hid, hprevious⟩ := FlowDefinition.yield?_adopt hp.context hagree hp.flow ha
    have hunused : p.store.get? (p.run.adopt step a).id = none := by
      rw [hid, ← Dict.contains_eq_false, ← Bool.not_eq_true]
      exact hp.fresh.unused p.turn (Nat.le_refl _) hturn
    rw [takeTurn_stored ha (ActionStore.add_of_unused hunused hprevious)]
    exact {
      flow := hp.flow
      context := hp.context
      adds := hp.adds.append (.insert hunused)
      bare := by
        rw [List.map_append, hp.bare, List.filterMap_append, List.filterMap_cons_some hyield]
        rfl
      fresh := by
        refine hp.fresh.drawn fun id hused => ?_
        obtain ⟨b, hb⟩ := Dict.contains_iff.1 hused
        rw [Dict.get?_insert, hid] at hb
        split at hb
        · next heq => exact .inr heq
        · exact .inl (Dict.contains_iff.2 ⟨b, hb⟩) }
  · have hnot : ∀ a, step.evaluate h.engine.renderer event p.run.context (h.supply p.turn) ≠
        .ok (some a) := fun a ha => hsome ⟨a, ha⟩
    have hnone : f.yield? r event step = none :=
      FlowDefinition.yield?_eq_none hp.context hagree hnot
    rw [takeTurn_passed hnot]
    exact {
      flow := hp.flow
      context := hp.context
      adds := hp.adds
      bare := by
        rw [hp.bare, List.filterMap_append, List.filterMap_cons_none hnone, List.filterMap_nil,
          List.append_nil]
      fresh := hp.fresh.later }

theorem Yielded.turns {steps : List Step} (hp : Yielded before h.supply stop f r event done p)
    (hagree : ∀ step ∈ steps, h.engine.renderer.AgreeOn r step.sources)
    (hroom : p.turn + steps.length ≤ stop) :
    Yielded before h.supply stop f r event (done ++ steps)
      (steps.foldl (h.engine.takeTurn event) p) := by
  induction steps generalizing done p with
  | nil => simpa using hp
  | cons step rest ih =>
      rw [List.length_cons] at hroom
      have hnext := hp.turn (hagree step List.mem_cons_self) (by omega)
      have hrest := ih hnext (fun step hstep => hagree step (List.mem_cons_of_mem _ hstep))
        (by rw [turn_takeTurn]; omega)
      simpa using hrest

/-- The assignment begins a run of the flow. -/
def BeginsRun (event : Event) (f : FlowDefinition) (a : Assignment) : Prop :=
  ∃ correlationId, a = ⟨.start f correlationId, event⟩

/-- A new run that is moved on its own leaves behind what its flow yields. -/
theorem process_yields {a : Assignment} (ha : BeginsRun event f a)
    (hread : f.ReadAlike h.engine.renderer r)
    (hfresh : Unspent (fun id => h.actions.contains id = true) h.supply h.used stop)
    (hroom : (h.process a).2.used ≤ stop) :
    h.actions.Adds (h.process a).2.actions (h.process a).1 ∧
      (h.process a).1.map Action.bare = f.yields r h.mode event ∧
      Unspent (fun id => (h.process a).2.actions.contains id = true) h.supply
        (h.process a).2.used stop := by
  obtain ⟨correlationId, rfl⟩ := ha
  have hcandidates : (FlowInstance.start f correlationId).candidates h.mode event =
      (FlowInstance.start f "").candidates h.mode event := by
    rw [FlowDefinition.candidates_start, FlowDefinition.candidates_start]
  have hstart : Yielded h.actions h.supply stop f r event []
      ⟨h.actions, .start f correlationId, [], h.used⟩ := ⟨rfl, rfl, .refl _, rfl, hfresh⟩
  have hsteps : ∀ step ∈ (FlowInstance.start f correlationId).candidates h.mode event,
      h.engine.renderer.AgreeOn r step.sources :=
    fun step hstep => hread step (FlowInstance.mem_candidates.1 hstep).1
  have hend := hstart.turns hsteps (by rw [← turn_foldl_takeTurn]; exact hroom)
  exact ⟨hend.adds, hend.bare.trans (by rw [hcandidates]; rfl), hend.fresh⟩

theorem process_used (h : Hub) (a : Assignment) :
    (h.process a).2.used = h.used + (a.run.candidates h.mode a.event).length :=
  turn_foldl_takeTurn _ _

theorem used_le_processEach (h : Hub) (alone : List Assignment) :
    h.used ≤ (h.processEach alone).2.used := by
  induction alone generalizing h with
  | nil => exact Nat.le_refl _
  | cons a rest ih =>
      have hfirst : h.used ≤ (h.process a).2.used := by
        rw [process_used]
        omega
      exact Nat.le_trans hfirst (ih _)

/-- A run needs no more identifiers alone than among others. -/
theorem process_used_le_processEach (h : Hub) {alone : List Assignment} {a : Assignment}
    (ha : a ∈ alone) : (h.process a).2.used ≤ (h.processEach alone).2.used := by
  induction alone generalizing h with
  | nil => cases ha
  | cons b rest ih =>
      rcases List.mem_cons.1 ha with rfl | hrest
      · exact used_le_processEach (h.process a).2 rest
      · have hlater : ((h.process b).2.process a).2.used ≤ (h.processEach (b :: rest)).2.used :=
          ih (h.process b).2 hrest
        have hmode : (h.process b).2.mode = h.mode := rfl
        rw [process_used, process_used, hmode] at hlater
        rw [process_used]
        omega

/-- What templates come to does not depend on what is drawn at random. -/
def Steady (h : Hub) : Prop :=
  ∀ f ∈ h.flows.latest.values, ∀ seed seed',
    f.ReadAlike (templateRenderer h.data seed) (templateRenderer h.data seed')

section

variable {flows : List FlowDefinition} {alone : List Assignment}
  (halone : List.Forall₂ (BeginsRun event) flows alone)

include halone

theorem processEach_yields
    (hread : ∀ f ∈ flows, ∀ seed, f.ReadAlike (templateRenderer h.data seed) r)
    (hfresh : Unspent (fun id => h.actions.contains id = true) h.supply h.used stop)
    (hroom : (h.processEach alone).2.used ≤ stop) :
    h.actions.Adds (h.processEach alone).2.actions (h.processEach alone).1.flatten ∧
      (h.processEach alone).1.map (List.map Action.bare) =
        flows.map fun f => f.yields r h.mode event := by
  induction halone generalizing h with
  | nil => exact ⟨.refl _, rfl⟩
  | @cons f a flows rest hbegins halone ih =>
      have hfirst := process_yields hbegins (hread f List.mem_cons_self _) hfresh
        (Nat.le_trans (used_le_processEach (h.process a).2 rest) hroom)
      obtain ⟨hadds, hbare, hfresh'⟩ := hfirst
      obtain ⟨hadds', hbare'⟩ := ih (h := (h.process a).2)
        (fun g hg => hread g (List.mem_cons_of_mem _ hg)) hfresh' hroom
      refine ⟨hadds.append hadds', ?_⟩
      rw [List.map_cons, ← hbare]
      exact congrArg _ hbare'

/-- Each of the runs alone, in the place of all of them. -/
theorem map_process_yields
    (hread : ∀ f ∈ flows, ∀ seed, f.ReadAlike (templateRenderer h.data seed) r)
    (hfresh : Unspent (fun id => h.actions.contains id = true) h.supply h.used stop)
    (hroom : ∀ a ∈ alone, (h.process a).2.used ≤ stop) :
    (alone.map fun a => (h.process a).1.map Action.bare) =
      flows.map fun f => f.yields r h.mode event := by
  induction halone with
  | nil => rfl
  | @cons f a flows rest hbegins halone ih =>
      obtain ⟨-, hbare, -⟩ := process_yields hbegins (hread f List.mem_cons_self _) hfresh
        (hroom a List.mem_cons_self)
      rw [List.map_cons, List.map_cons, hbare]
      refine congrArg _ (ih ?_ ?_)
      · exact fun g hg => hread g (List.mem_cons_of_mem _ hg)
      · exact fun b hb => hroom b (List.mem_cons_of_mem _ hb)

end

end

end Hub

end Orchestrator
