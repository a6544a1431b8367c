import Orchestrator.Dispatch
import Orchestrator.Proofs.Flow.Validation
import Orchestrator.Proofs.Store.Action

/-!
Which runs a report moves, and which of their steps come to be evaluated. A step that has an action in
the run, as far as the run knows, is passed over. The store may list the actions of a run in any
order, and what is relied on about the run holds for all of them.
-/

namespace Orchestrator

namespace DependencyMode

/-- The steps that a step depends on have finished, one of them or all of them. -/
def Met (m : DependencyMode) (step : Step) (finished : String → Prop) : Prop :=
  match m with
  | .any => ∃ id ∈ step.dependsOn, finished id
  | .all => ∀ id ∈ step.dependsOn, finished id

theorem Met.imp {m : DependencyMode} {step : Step} {p q : String → Prop} (h : m.Met step p)
    (hpq : ∀ id, p id → q id) : m.Met step q := by
  cases m with
  | any =>
      obtain ⟨id, hid, hp⟩ := h
      exact ⟨id, hid, hpq id hp⟩
  | all => exact fun id hid => hpq id (h id hid)

theorem satisfied_iff {m : DependencyMode} {step : Step} {i : FlowInstance} :
    m.satisfied step i = true ↔
      step.dependsOn = [] ∨ m.Met step fun id => i.stepFinished id = true := by
  cases m <;> simp [satisfied, Met]

theorem satisfied_of_all {m : DependencyMode} {step : Step} {i : FlowInstance}
    (h : ∀ id ∈ step.dependsOn, i.stepFinished id = true) : m.satisfied step i = true := by
  rw [satisfied_iff]
  by_cases hnone : step.dependsOn = []
  · exact .inl hnone
  · obtain ⟨id, hid⟩ := List.exists_mem_of_ne_nil _ hnone
    cases m with
    | any => exact .inr ⟨id, hid, h id hid⟩
    | all => exact .inr h

end DependencyMode

namespace FlowInstance

variable {i : FlowInstance} {mode : DependencyMode} {event : Event} {step : Step}

theorem mem_candidates :
    step ∈ i.candidates mode event ↔ step ∈ i.flow.steps ∧ step.listensTo event = true ∧
      i.hasActionFor step.id = false ∧ mode.satisfied step i = true := by
  simp [candidates, DependencyMode.isCandidate, and_assoc]

theorem candidates_ids_nodup (h : i.flow.stepIds.Nodup) (mode : DependencyMode) (event : Event) :
    ((i.candidates mode event).map (·.id)).Nodup :=
  h.sublist (List.filter_sublist.map _)

/-- A step that has an action in the run is not evaluated again. -/
theorem hasActionFor_of_mem_candidates {id : String}
    (h : id ∈ (i.candidates mode event).map (·.id)) : i.hasActionFor id = false := by
  obtain ⟨step, hstep, rfl⟩ := List.mem_map.1 h
  exact (mem_candidates.1 hstep).2.2.1

/-- A run that is resumed knows the steps of the actions that it was given. -/
theorem hasActionFor_resume {flow : FlowDefinition} {correlationId : String} {context : Context}
    {actions : List Action} {id : String} :
    (resume flow correlationId context actions).hasActionFor id = true ↔
      ∃ a ∈ actions, a.stepId = id := by
  rw [hasActionFor, resume, Dict.contains_ofList]
  simp

theorem not_stepFinished_start (flow : FlowDefinition) (correlationId id : String) :
    (start flow correlationId).stepFinished id = false := rfl

/-- A step counts as finished in a run that is resumed only if one of its actions has finished. -/
theorem finished_of_resume {flow : FlowDefinition} {correlationId : String} {context : Context}
    {actions : List Action} {id : String}
    (h : (resume flow correlationId context actions).stepFinished id = true) :
    ∃ a ∈ actions, a.stepId = id ∧ a.hasFinished = true := by
  obtain ⟨a, ha, hfinished⟩ := (Option.any_eq_true _ _).1 h
  obtain ⟨b, hb, heq⟩ := List.mem_map.1 (Dict.mem_of_get?_ofList ha)
  obtain ⟨rfl, rfl⟩ := Prod.mk.inj heq
  exact ⟨b, hb, rfl, hfinished⟩

/-- A step of which all actions have finished counts as finished in a run that is resumed. -/
theorem stepFinished_resume {flow : FlowDefinition} {correlationId : String} {context : Context}
    {actions : List Action} {id : String} (hsome : ∃ a ∈ actions, a.stepId = id)
    (hall : ∀ a ∈ actions, a.stepId = id → a.hasFinished = true) :
    (resume flow correlationId context actions).stepFinished id = true := by
  have hhas : (resume flow correlationId context actions).hasActionFor id = true :=
    hasActionFor_resume.2 hsome
  obtain ⟨a, ha⟩ := Dict.contains_iff.1 hhas
  obtain ⟨b, hb, heq⟩ := List.mem_map.1 (Dict.mem_of_get?_ofList ha)
  obtain ⟨hid, rfl⟩ := Prod.mk.inj heq
  rw [stepFinished, ha, Option.any_some]
  exact hall b hb hid

end FlowInstance

/-! ## Listings

A run that is resumed has one of the actions of a step, and which of them depends on the order in
which the store lists them. What is relied on is the same for every order.
-/

namespace ActionStore

/-- The actions of a run, in any order in which a store may list them. -/
def IsListing (s : ActionStore) (correlationId : String) (actions : List Action) : Prop :=
  actions.Perm (s.findCorrelated correlationId)

theorem isListing_findCorrelated (s : ActionStore) (correlationId : String) :
    s.IsListing correlationId (s.findCorrelated correlationId) := .refl _

namespace IsListing

variable {s : ActionStore} {actions : List Action} {flow : FlowDefinition} {context : Context}
  {correlationId stepId : String}

theorem mem_iff (h : s.IsListing correlationId actions) {a : Action} :
    a ∈ actions ↔ ∃ id, s.get? id = some a ∧ a.correlationId = correlationId := by
  rw [List.Perm.mem_iff h, mem_findCorrelated, Dict.mem_values, exists_and_right]

/-- The run knows a step if an action of it is stored. -/
theorem hasActionFor_iff (h : s.IsListing correlationId actions) :
    (FlowInstance.resume flow correlationId context actions).hasActionFor stepId = true ↔
      ∃ id a, s.get? id = some a ∧ a.correlationId = correlationId ∧ a.stepId = stepId := by
  rw [FlowInstance.hasActionFor_resume]
  constructor
  · rintro ⟨a, ha, hstep⟩
    obtain ⟨id, hstored, hrun⟩ := h.mem_iff.1 ha
    exact ⟨id, a, hstored, hrun, hstep⟩
  · rintro ⟨id, a, hstored, hrun, hstep⟩
    exact ⟨a, h.mem_iff.2 ⟨id, hstored, hrun⟩, hstep⟩

/-- For a step that counts as finished an action is stored that has finished. -/
theorem finished_of_stepFinished (h : s.IsListing correlationId actions)
    (hfinished : (FlowInstance.resume flow correlationId context actions).stepFinished stepId =
      true) :
    ∃ id a, s.get? id = some a ∧ a.correlationId = correlationId ∧ a.stepId = stepId ∧
      a.hasFinished = true := by
  obtain ⟨a, ha, hstep, hdone⟩ := FlowInstance.finished_of_resume hfinished
  obtain ⟨id, hstored, hrun⟩ := h.mem_iff.1 ha
  exact ⟨id, a, hstored, hrun, hstep, hdone⟩

/-- A step counts as finished if all of its stored actions have finished. -/
theorem stepFinished (h : s.IsListing correlationId actions)
    (hsome : ∃ id a, s.get? id = some a ∧ a.correlationId = correlationId ∧ a.stepId = stepId)
    (hall : ∀ id a, s.get? id = some a → a.correlationId = correlationId → a.stepId = stepId →
      a.hasFinished = true) :
    (FlowInstance.resume flow correlationId context actions).stepFinished stepId = true := by
  obtain ⟨id, a, hstored, hrun, hstep⟩ := hsome
  refine FlowInstance.stepFinished_resume ⟨a, h.mem_iff.2 ⟨id, hstored, hrun⟩, hstep⟩ ?_
  intro b hb hbstep
  obtain ⟨id', hbstored, hbrun⟩ := h.mem_iff.1 hb
  exact hall id' b hbstored hbrun hbstep

/-- As long as no step of the run has two actions, the run is the same for every order. -/
theorem resume_eq (h : s.IsListing correlationId actions)
    (hone : ∀ id id' a b, s.get? id = some a → s.get? id' = some b →
      a.correlationId = correlationId → b.correlationId = correlationId → a.stepId = b.stepId →
        id = id') :
    FlowInstance.resume flow correlationId context actions =
      FlowInstance.resume flow correlationId context (s.findCorrelated correlationId) := by
  have hdistinct : ((s.findCorrelated correlationId).map (·.stepId)).Nodup := by
    rw [findCorrelated, Dict.values, List.filter_map, List.map_map]
    refine List.Nodup.map_on ?_ (s.entries_nodup.filter _)
    rintro ⟨id, a⟩ ha ⟨id', b⟩ hb hstep
    obtain ⟨hstored, hrun⟩ := List.mem_filter.1 ha
    obtain ⟨hbstored, hbrun⟩ := List.mem_filter.1 hb
    rw [Dict.mem_entries] at hstored hbstored
    obtain rfl := hone id id' a b hstored hbstored (eq_of_beq hrun) (eq_of_beq hbrun) hstep
    rw [Option.some.inj (hstored.symm.trans hbstored)]
  have hbindings : ((actions.map fun a => (a.stepId, a)).map (·.1)).Nodup := by
    rw [List.map_map]
    exact (List.Perm.map _ h).nodup_iff.2 hdistinct
  rw [FlowInstance.resume, FlowInstance.resume, Dict.ofList_perm (List.Perm.map _ h) hbindings]

end IsListing

end ActionStore

namespace Dispatch

/-- The n-th run that an event starts has the n-th of the fresh identifiers. -/
theorem start_getElem? {flows : FlowStore} {event : Event} {fresh : Nat → String} {n : Nat}
    {a : Assignment} (h : (start flows event fresh)[n]? = some a) :
    ∃ flow, flow ∈ flows.findByEvent event ∧ n < (flows.findByEvent event).length ∧
      a = ⟨FlowInstance.start flow (fresh n), event⟩ := by
  unfold start at h
  simp only [List.getElem?_map, Option.map_eq_some_iff, List.getElem?_zip_eq_some] at h
  obtain ⟨⟨flow, m⟩, ⟨hflow, hm⟩, rfl⟩ := h
  obtain ⟨hn, hlt⟩ := List.getElem?_eq_some_iff.1 hm
  rw [List.getElem_range] at hlt
  subst hlt
  exact ⟨flow, List.mem_of_getElem? hflow, by simpa using hn, rfl⟩

/-- Each flow that the event enters has a run under an identifier of its own. -/
theorem start_eq_zip {flows : FlowStore} {event : Event} {ids : List String}
    (hlength : ids.length = (flows.findByEvent event).length) :
    start flows event (fun n => ids.getD n "") =
      ((flows.findByEvent event).zip ids).map fun run => ⟨.start run.1 run.2, event⟩ := by
  have hids : ids = (List.range (flows.findByEvent event).length).map fun n => ids.getD n "" := by
    apply List.ext_getElem
    · rw [List.length_map, List.length_range, hlength]
    · intro n hn _
      simp [hn]
  conv_rhs => rw [hids, List.zip_map_right, List.map_map]
  rfl

theorem resume_eq_some {flows : FlowStore} {actions : ActionStore} {a : Action} {b : Assignment}
    (h : resume flows actions a = some b) :
    ∃ result flow, a.result = some result ∧ flows.Knows flow ∧
      b = ⟨FlowInstance.resume flow a.correlationId a.context
        (actions.findCorrelated a.correlationId), result⟩ := by
  unfold resume at h
  simp only [Option.bind_eq_bind, Option.bind_eq_some_iff, Option.pure_def,
    Option.some.injEq] at h
  obtain ⟨result, hresult, uuid, -, flow, hflow, rfl⟩ := h
  exact ⟨result, flow, hresult, FlowStore.knows_of_getByUuid? hflow, rfl⟩

end Dispatch

end Orchestrator
