import Orchestrator.Proofs.Flow.Attempts

/-!
What becomes of a run when its store refuses some actions. The steps that are due put an action to
the store each, those that are accepted make up all that the run and the store gain, and those that
are refused are just the ones that come about when the event is processed once more.
-/

namespace Orchestrator.Engine

variable {σ : Type}

/-- What the steps of a run put to the store when an event is processed. -/
def log (e : Engine σ) (store : σ) (run : FlowInstance) (event : Event) (turn : Nat) :
    List Attempt :=
  e.attempts event run store turn (run.candidates e.mode event)

/-- A log accounts for how an event has moved a run forward. -/
structure Accounts (e : Engine σ) (contents : σ → ActionStore) (event : Event) (i : FlowInstance)
    (store : σ) (log : List Attempt) (p : Progress σ) : Prop where
  due : log.map Attempt.step = i.flow.steps.filter fun step =>
    step.listensTo event && !i.hasActionFor step.id && e.mode.satisfied step i &&
      (i.draft? e.renderer event step).isSome
  drafted : ∀ t ∈ log, ∃ n a,
    t.step.evaluate e.renderer event i.context (e.stamp n) = .ok (some a) ∧
      t.draft = i.adopt t.step a
  marked : ∀ t ∈ log, t.draft.correlationId = i.correlationId ∧
    t.draft.flowUuid = i.flow.uuid ∧ t.draft.flowName = i.flow.name ∧ t.draft.stepId = t.step.id
  asked : e.Asks store log p.store
  asDrafted : ∀ t ∈ log, ∀ a, t.stored? = some a → a = t.draft
  created : p.created = log.filterMap Attempt.stored?
  store : (contents store).Adds (contents p.store) p.created
  actions : ∀ id a, p.run.actions.get? id = some a ↔
    i.actions.get? id = some a ∨ (a ∈ p.created ∧ a.stepId = id)
  others : p.run = { i with actions := p.run.actions }

variable {e : Engine σ} {event : Event} {i : FlowInstance} {store : σ} {turn : Nat}
  {contents : σ → ActionStore}

theorem created_process (e : Engine σ) (store : σ) (i : FlowInstance) (event : Event) (turn : Nat) :
    (e.process store i event turn).created =
      (e.log store i event turn).filterMap Attempt.stored? :=
  (e.foldl_takeTurn event (i.candidates e.mode event) ⟨store, i, [], turn⟩).2

theorem run_process (e : Engine σ) (store : σ) (i : FlowInstance) (event : Event) (turn : Nat) :
    (e.process store i event turn).run = (e.log store i event turn).foldl .enter i :=
  (e.foldl_takeTurn event (i.candidates e.mode event) ⟨store, i, [], turn⟩).1

theorem log_hasActionFor {t : Attempt} (ht : t ∈ e.log store i event turn) :
    i.hasActionFor t.step.id = false :=
  (FlowInstance.mem_candidates.1 (mem_attempts ht).1).2.2.1

theorem log_distinct (hids : i.flow.stepIds.Nodup) :
    ((e.log store i event turn).map fun t => t.step.id).Nodup := by
  have hcandidates := FlowInstance.candidates_ids_nodup hids e.mode event
  have hsteps : (e.log store i event turn).map (fun t => t.step.id) =
      ((i.candidates e.mode event).filter
        fun step => (i.draft? e.renderer event step).isSome).map (·.id) := by
    rw [← map_step_attempts e event i store turn, List.map_map]
    rfl
  rw [hsteps]
  exact hcandidates.sublist (List.filter_sublist.map _)

section

variable (hover : e.Over contents)

include hover

theorem Over.log_asDrafted {t : Attempt} (ht : t ∈ e.log store i event turn) {a : Action}
    (ha : t.stored? = some a) : a = t.draft := by
  obtain ⟨-, before, after, n, hattempt⟩ := mem_attempts ht
  exact hover.stored_eq hattempt ha

theorem Over.log_stored {t : Attempt} (ht : t ∈ e.log store i event turn) {a : Action}
    (ha : t.stored? = some a) : a.hasFinished = false ∧ a.stepId = t.step.id := by
  obtain ⟨-, before, after, n, hattempt⟩ := mem_attempts ht
  exact hover.stored_unfinished hattempt ha

theorem Over.gains_process (hids : i.flow.stepIds.Nodup) (store : σ) (event : Event) (turn : Nat) :
    i.Gains (e.process store i event turn).run (gainedBy (e.log store i event turn)) := by
  rw [run_process]
  exact FlowInstance.gains_foldl_enter (log_distinct hids) (fun t ht => log_hasActionFor ht)
    fun t ht a ha => (hover.log_stored ht ha).1

theorem Over.accounts_process (hids : i.flow.stepIds.Nodup) (store : σ) (event : Event)
    (turn : Nat) :
    e.Accounts contents event i store (e.log store i event turn)
      (e.process store i event turn) where
  due := by
    rw [log, map_step_attempts, FlowInstance.candidates, List.filter_filter]
    refine List.filter_congr fun step _ => ?_
    rw [DependencyMode.isCandidate, Bool.and_comm]
  drafted := by
    intro t ht
    obtain ⟨-, before, after, n, hattempt⟩ := mem_attempts ht
    obtain ⟨a, ha, -, hdraft, -⟩ := attempt?_eq_some hattempt
    exact ⟨n, a, ha, hdraft⟩
  marked := by
    intro t ht
    obtain ⟨-, before, after, n, hattempt⟩ := mem_attempts ht
    obtain ⟨a, -, -, hdraft, -⟩ := attempt?_eq_some hattempt
    rw [hdraft]
    exact ⟨rfl, rfl, rfl, rfl⟩
  asked := e.asks_foldl_takeTurn event (i.candidates e.mode event) ⟨store, i, [], turn⟩
  asDrafted := fun t ht a ha => hover.log_asDrafted ht ha
  created := created_process e store i event turn
  store := by
    rw [created_process]
    exact hover.adds_of_asks
      (e.asks_foldl_takeTurn event (i.candidates e.mode event) ⟨store, i, [], turn⟩)
  actions := by
    intro id a
    rw [run_process, FlowInstance.get?_foldl_enter (log_distinct hids)
      fun t ht => log_hasActionFor ht, created_process]
    refine or_congr_right ?_
    constructor
    · rintro ⟨t, ht, hid, ha⟩
      exact ⟨List.mem_filterMap.2 ⟨t, ht, ha⟩, (hover.log_stored ht ha).2.trans hid⟩
    · rintro ⟨hcreated, hid⟩
      obtain ⟨t, ht, ha⟩ := List.mem_filterMap.1 hcreated
      exact ⟨t, ht, (hover.log_stored ht ha).2.symm.trans hid, ha⟩
  others := (hover.gains_process hids store event turn).others

end

/-- The steps that have got no action are those without a draft and those whose draft was refused. -/
theorem filterMap_draft?_ungained (hids : i.flow.stepIds.Nodup) (store : σ) (turn : Nat) :
    let log := e.log store i event turn
    ((i.candidates e.mode event).filter fun step => !(gainedBy log).contains step.id).filterMap
        (i.draft? e.renderer event) =
      (log.filter fun t => !t.isStored).map fun t => t.draft.unstamped := by
  intro log
  have hrefused : ∀ t ∈ log, (!t.isStored) = !(gainedBy log).contains t.step.id := by
    intro t ht
    rw [FlowInstance.isStored_eq_contains (log_distinct hids) ht]
  have hlog := filterMap_attempts
    (fun step draft => if !(gainedBy log).contains step.id then some draft else none) e event i
    store turn (i.candidates e.mode event)
  rw [List.filter_congr hrefused, ← List.filterMap_eq_map', List.filterMap_filter,
    List.filterMap_filter]
  refine Eq.trans (List.filterMap_congr fun step _ => ?_) hlog.symm
  cases i.draft? e.renderer event step <;> simp

/-- A store that refuses nothing takes in all drafts. -/
theorem Over.created_of_all_stored (hover : e.Over contents)
    (hstored : ∀ t ∈ e.log store i event turn, t.isStored = true) :
    (e.process store i event turn).created.map Action.unstamped =
      (i.candidates e.mode event).filterMap (i.draft? e.renderer event) := by
  rw [← map_draft_attempts e event i store turn, created_process, List.map_filterMap]
  refine List.filterMap_eq_map_iff_forall_eq_some.2 fun t ht => ?_
  obtain ⟨a, ha⟩ := Option.isSome_iff_exists.1 (hstored t ht)
  rw [ha, hover.log_asDrafted ht ha]
  rfl

/-- A run that the same event moves once more, now over a store that refuses nothing, gains just
what was refused before. -/
theorem Over.created_again {σ' : Type} {again : Engine σ'} {contents' : σ' → ActionStore}
    (hover : e.Over contents) (hover' : again.Over contents') (hids : i.flow.stepIds.Nodup)
    (hmode : again.mode = e.mode) (hread : i.flow.ReadAlike again.renderer e.renderer)
    (store : σ) (turn : Nat) {store' : σ'} {turn' : Nat}
    (hstored : ∀ t ∈ again.log store' (e.process store i event turn).run event turn',
      t.isStored = true) :
    (again.process store' (e.process store i event turn).run event turn').created.map
        Action.unstamped =
      ((e.log store i event turn).filter fun t => !t.isStored).map fun t => t.draft.unstamped := by
  -- The run has changed only by what it has gained, so the steps that are due now were due before.
  have hgains := hover.gains_process hids store event turn
  rw [hover'.created_of_all_stored hstored, hmode, hgains.candidates]
  generalize (e.process store i event turn).run = j at hgains
  refine Eq.trans ?_ (filterMap_draft?_ungained hids store turn)
  refine List.filterMap_congr fun step hstep => ?_
  have hmem : step ∈ i.flow.steps :=
    (FlowInstance.mem_candidates.1 (List.mem_filter.1 hstep).1).1
  rw [hgains.others]
  exact FlowInstance.draft?_congr rfl rfl (hread step hmem)

/-- Whatever the store refuses, the log accounts for all that the event does; and the same event,
processed at once a second time over a store that refuses nothing, makes up for the refusals. -/
theorem process_amid_refusals (hover : e.Over contents) (hids : i.flow.stepIds.Nodup) (store : σ)
    (event : Event) (turn : Nat) :
    let log := e.log store i event turn
    let p := e.process store i event turn
    e.Accounts contents event i store log p ∧
      ∀ {σ' : Type} (again : Engine σ') (contents' : σ' → ActionStore) (store' : σ') (turn' : Nat),
        again.Over contents' → again.mode = e.mode →
        i.flow.ReadAlike again.renderer e.renderer →
        (∀ t ∈ again.log store' p.run event turn', t.isStored = true) →
        (again.process store' p.run event turn').created.map Action.unstamped =
          (log.filter fun t => !t.isStored).map fun t => t.draft.unstamped := by
  refine ⟨hover.accounts_process hids store event turn, ?_⟩
  intro σ' again contents' store' turn' hover' hmode hread hstored
  exact hover.created_again hover' hids hmode hread store turn hstored

/-- The store of an orchestrator refuses only what it cannot hold. -/
theorem over_hub (h : Hub) : h.engine.Over id where
  accepts := by
    intro store after a stored hadd
    simp only [Hub.engine] at hadd
    split at hadd <;> simp_all
  refuses := by
    intro store after a refusal hadd
    simp only [Hub.engine] at hadd
    split at hadd <;> simp_all

/-- Two courses that an order starts. -/
def lunch : FlowDefinition where
  name := "lunch"
  uuid := none
  description := ""
  steps := ["soup", "salad"].map fun id =>
    ⟨id, [], ⟨"hall", "order", ∅⟩, "", ∅, ⟨"kitchen", id, ∅, .null⟩⟩

def order : Event :=
  { (default : Event) with name := "order", pack := { (default : PackRef) with name := "hall" } }

/-- An engine whose store is out of reach every second time. -/
def flaky : Engine (Bool × ActionStore) where
  mode := .any
  renderer := templateRenderer ∅ 0
  add
    | (true, store), a =>
      match store.add a with
      | .ok (stored, store) => (.ok stored, (false, store))
      | .error e => (.error e, (false, store))
    | (false, store), _ => (.error (.storage "out of reach"), (true, store))
  stamp n := ⟨⟨BitVec.ofNat 128 n⟩, default⟩

theorem over_flaky : flaky.Over Prod.snd where
  accepts := by
    rintro ⟨_ | _, store⟩ after a stored hadd <;> simp only [flaky] at hadd
    · cases hadd
    · split at hadd <;> cases hadd
      assumption
  refuses := by
    rintro ⟨_ | _, store⟩ after a refusal hadd <;> simp only [flaky] at hadd
    · cases hadd
      rfl
    · split at hadd <;> cases hadd
      rfl

/-- The soup is refused and the salad is not. Ordered once more, the lunch gets its soup, and
nothing else. -/
theorem lunch_amid_refusals :
    let i : FlowInstance := .start lunch "table"
    let p := flaky.process (false, ∅) i order 0
    let again := (Hub.empty .any flaky.stamp).engine.process p.store.2 p.run order p.turn
    p.created.map (·.stepId) = ["salad"] ∧ p.run.actions.keys = ["salad"] ∧
      flaky.Accounts Prod.snd order i (false, ∅) (flaky.log (false, ∅) i order 0) p ∧
      again.created.map (fun a => a.unstamped.stepId) = ["soup"] := by
  obtain ⟨haccounts, hagain⟩ := process_amid_refusals over_flaky (i := .start lunch "table")
    (by decide +kernel) (false, ∅) order 0
  have hsoup := hagain (Hub.empty .any flaky.stamp).engine id
    (flaky.process (false, ∅) (.start lunch "table") order 0).store.2
    (flaky.process (false, ∅) (.start lunch "table") order 0).turn
    (over_hub _) rfl (fun _ _ _ _ _ => rfl) (by decide +kernel)
  refine ⟨by decide +kernel, by decide +kernel, haccounts, ?_⟩
  have hsteps := congrArg (List.map Action.stepId) hsoup
  rw [List.map_map] at hsteps
  exact hsteps.trans (by decide +kernel)

end Orchestrator.Engine
