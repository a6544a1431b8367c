import Orchestrator.Proofs.Evaluation
import Orchestrator.Proofs.Floor.Effect
import Orchestrator.Proofs.Store.Flow

/-!
The version of a flow that a run goes by. It is pinned when the run starts, under the fresh identifier
of the run, and all actions of the run carry out steps of this very definition, whatever becomes of
the flow in the meantime.

This is kept by what the tasks hold: an action that is read or written again changes in nothing that
ties it to its step. So nothing here needs the journal.
-/

namespace Orchestrator

/-- An action carries out a step of a flow. -/
structure Action.CarriesOut (a : Action) (flow : FlowDefinition) (step : Step) : Prop where
  version : a.flowUuid = flow.uuid
  flowName : a.flowName = flow.name
  stepId : a.stepId = step.id
  member : step ∈ flow.steps
  name : a.name = step.command.name
  packName : a.packName = step.command.packName
  trigger : step.listensTo a.trigger = true

/-- The identifiers that a move has for runs. -/
def Move.ids : Move → List String
  | .load _ ids => ids
  | _ => []

/-- The versions that the runs go by, by the identifiers of the runs. -/
abbrev Pins := String → Option FlowDefinition

/-- An action carries out a step of the version that its run goes by. -/
def Action.Pinned (pins : Pins) (a : Action) : Prop :=
  ∃ flow step, pins a.correlationId = some flow ∧ a.CarriesOut flow step

structure Walk.Pinned (pins : Pins) (w : Walk) : Prop where
  run : pins w.run.correlationId = some w.run.flow
  steps : ∀ step ∈ w.steps, step ∈ w.run.flow.steps ∧ step.listensTo w.event = true
  draft : ∀ a, w.draft = some a → a.Pinned pins

/-- All actions that a task knows are pinned. -/
def Task.Pinned (pins : Pins) : Task → Prop
  | .dispatch (.completed a) _ => a.Pinned pins
  | .walk w => w.Pinned pins
  | .take _ queue _ => ∀ a ∈ queue, a.Pinned pins
  | .complete _ a _ _ => a.Pinned pins
  | .completed _ _ _ outcome _ => ∀ a, outcome = .ok (some a) → a.Pinned pins
  | _ => True

/-- Runs that have a version keep it. -/
def Pins.Extends (pins pins' : Pins) : Prop := ∀ id flow, pins id = some flow → pins' id = some flow

/-- The runs that have been found go by the versions that they were found with. -/
def Pins.bind (pins : Pins) (found : List Assignment) : Pins := fun id =>
  match found.find? fun a => a.run.correlationId == id with
  | some a => some a.run.flow
  | none => pins id

section

variable {pins pins' : Pins} {a b : Action} {flow : FlowDefinition} {step : Step} {w : Walk}
  {t : Task} {found : List Assignment}

theorem Action.CarriesOut.of_core (h : a.CarriesOut flow step) (hcore : a.core = b.core) :
    b.CarriesOut flow step := by
  simp only [Action.core, Action.mk.injEq] at hcore
  obtain ⟨-, hname, hpack, -, -, -, -, -, hversion, hflow, hstep, -, htrigger, -⟩ := hcore
  exact {
    version := hversion ▸ h.version
    flowName := hflow ▸ h.flowName
    stepId := hstep ▸ h.stepId
    member := h.member
    name := hname ▸ h.name
    packName := hpack ▸ h.packName
    trigger := htrigger ▸ h.trigger }

theorem Action.Pinned.of_core (h : a.Pinned pins) (hcore : a.core = b.core) : b.Pinned pins := by
  obtain ⟨flow, step, hpin, hcarries⟩ := h
  rw [(Action.run_eq_of_core hcore).1] at hpin
  exact ⟨flow, step, hpin, hcarries.of_core hcore⟩

theorem Action.Pinned.extend (h : a.Pinned pins) (hext : pins.Extends pins') : a.Pinned pins' := by
  obtain ⟨flow, step, hpin, hcarries⟩ := h
  exact ⟨flow, step, hext _ _ hpin, hcarries⟩

theorem Walk.Pinned.extend (h : w.Pinned pins) (hext : pins.Extends pins') : w.Pinned pins' where
  run := hext _ _ h.run
  steps := h.steps
  draft := fun a ha => (h.draft a ha).extend hext

theorem Walk.Pinned.skip (h : w.Pinned pins) : w.skip.Pinned pins where
  run := h.run
  steps := fun step hstep => h.steps step (List.mem_of_mem_tail hstep)
  draft := fun a ha => by cases ha

theorem Walk.Pinned.stored (h : w.Pinned pins) (step : Step) (a : Action) :
    (w.stored step a).Pinned pins :=
  ⟨h.run, h.skip.steps, h.skip.draft⟩

/-- What a step of a walk gives carries out this step. -/
theorem Walk.Pinned.adopt {rest : List Step} {renderer : Renderer} {context : Context}
    {stamp : Stamp} (h : w.Pinned pins) (hsteps : w.steps = step :: rest)
    (heval : step.evaluate renderer w.event context stamp = .ok (some a)) :
    (w.run.adopt step a).Pinned pins := by
  obtain ⟨hmember, hlistens⟩ := h.steps step (hsteps ▸ List.mem_cons_self)
  obtain ⟨labels, input, context, rfl⟩ := Step.evaluate_eq_some heval
  exact ⟨w.run.flow, step, h.run, rfl, rfl, rfl, hmember, rfl, rfl, hlistens⟩

theorem Task.Pinned.extend (h : t.Pinned pins) (hext : pins.Extends pins') : t.Pinned pins' := by
  cases t with
  | dispatch report done =>
      cases report with
      | published event => trivial
      | completed a => exact Action.Pinned.extend h hext
  | walk w => exact Walk.Pinned.extend h hext
  | take pack queue reading => exact fun a ha => (h a ha).extend hext
  | taken pack outcome => trivial
  | complete pack a result reading => exact Action.Pinned.extend h hext
  | completed pack id read outcome answered => exact fun a ha => (h a ha).extend hext

theorem Pins.extends_bind
    (hsame : ∀ a ∈ found, ∀ flow, pins a.run.correlationId = some flow → a.run.flow = flow) :
    pins.Extends (pins.bind found) := by
  intro id flow hpin
  unfold Pins.bind
  split
  · next a ha =>
    have hid : a.run.correlationId = id := by simpa using List.find?_some ha
    rw [hsame a (List.mem_of_find?_eq_some ha) flow (hid ▸ hpin)]
  · exact hpin

theorem Pins.bind_of_mem
    (hone : ∀ a ∈ found, ∀ b ∈ found, a.run.correlationId = b.run.correlationId →
      a.run.flow = b.run.flow) {c : Assignment} (hc : c ∈ found) :
    pins.bind found c.run.correlationId = some c.run.flow := by
  unfold Pins.bind
  split
  · next a ha =>
    have hid : a.run.correlationId = c.run.correlationId := by simpa using List.find?_some ha
    rw [hone a (List.mem_of_find?_eq_some ha) c hc hid]
  · next hnone =>
    have := List.find?_eq_none.1 hnone c hc
    simp at this

theorem Pins.bind_eq_some {id : String} (h : pins.bind found id = some flow) :
    pins id = some flow ∨ ∃ a ∈ found, a.run.correlationId = id ∧ a.run.flow = flow := by
  unfold Pins.bind at h
  split at h
  · next a ha =>
    have hid : a.run.correlationId = id := by simpa using List.find?_some ha
    exact .inr ⟨a, List.mem_of_find?_eq_some ha, hid, Option.some.inj h⟩
  · exact .inl h

end

namespace Floor

/-- What holds of the flows, of the stored actions and of those that the tasks know. -/
structure Pinned (pins : Pins) (s : Floor) : Prop where
  versions : s.flows.Versioned
  /-- The versions that runs go by are in the history, and the runs have been given identifiers. -/
  known : ∀ id flow, pins id = some flow → flow ∈ s.flows.history ∧ id ∈ s.names ∧ id ≠ ""
  actions : ∀ id a, s.actions.get? id = some a → a.Pinned pins
  tasks : s.Each fun _ t => t.Pinned pins

theorem pinned_empty (mode : DependencyMode) : (empty mode).Pinned fun _ => none where
  versions := .empty
  known := fun id flow h => by cases h
  actions := fun id a h => by simp [empty] at h
  tasks := each_empty mode _

namespace Pinned

variable {pins pins' : Pins} {s : Floor}

theorem begin (h : s.Pinned pins) {tasks : List Task} (htasks : ∀ t ∈ tasks, t.Pinned pins) :
    (s.begin tasks).Pinned pins :=
  { h with tasks := h.tasks.begin fun t ht _ => htasks t ht }

theorem put (h : s.Pinned pins) {i : Nat} {t : Task} (ht : t.Pinned pins) :
    (s.put i t).Pinned pins :=
  { h with tasks := h.tasks.put ht }

theorem give (h : s.Pinned pins) (i : Nat) (ids : List String) : (s.give i ids).Pinned pins :=
  { h with
    known := by
      intro id flow hpin
      obtain ⟨hflow, hnamed, hid⟩ := h.known id flow hpin
      rw [names_give]
      exact ⟨hflow, List.mem_append_left _ hnamed, hid⟩ }

/-- The store gets a later version of an action that is pinned. -/
theorem insert (h : s.Pinned pins) {a b : Action} (ha : a.Pinned pins) (hcore : a.core = b.core)
    (key : String) : { s with actions := s.actions.insert key b }.Pinned pins :=
  { h with
    actions := by
      intro id c hc
      rw [Dict.get?_insert] at hc
      split at hc
      · exact Option.some.inj hc ▸ ha.of_core hcore
      · exact h.actions id c hc }

theorem accept (h : s.Pinned pins) {i : Nat} {a b : Action} {t : Task} {key : String}
    (ha : a.Pinned pins) (hcore : a.core = b.core) (ht : t.Pinned pins) :
    (s.accept i b (s.actions.insert key b) t).Pinned pins :=
  { (h.insert ha hcore key).put ht with }

theorem register (h : s.Pinned pins) {flow : FlowDefinition} {uuid : Uuid}
    (hvalid : flow.validate = .ok ()) (hfresh : ∀ f ∈ s.flows.history, f.uuid ≠ some uuid) :
    { s with flows := (s.flows.add { flow with uuid := none } uuid).2 }.Pinned pins :=
  { h with
    versions := h.versions.add hvalid hfresh
    known := by
      intro id f hpin
      obtain ⟨hf, hrest⟩ := h.known id f hpin
      exact ⟨List.mem_cons_of_mem _ hf, hrest⟩ }

theorem remove (h : s.Pinned pins) (name : String) :
    { s with flows := (s.flows.remove name).2 }.Pinned pins :=
  { h with versions := h.versions.remove name }

theorem filter (h : s.Pinned pins) (p : String → Action → Bool) :
    { s with actions := s.actions.filter p }.Pinned pins :=
  { h with
    actions := by
      intro id a ha
      rw [Dict.get?_filter, Option.filter_eq_some_iff] at ha
      exact h.actions id a ha.1 }

/-- The candidates of a pack are stored actions. -/
theorem candidates (h : s.Pinned pins) {pack : Pack} {name : Option String} {a : Action}
    (ha : a ∈ Broker.candidates s.actions pack name) : a.Pinned pins := by
  obtain ⟨hvalue, -⟩ := ActionStore.mem_findNew.1 (List.mem_filter.1 ha).1
  obtain ⟨id, hid⟩ := Dict.mem_values.1 hvalue
  exact h.actions id a hid

/-! ### Runs that are found -/

/-- A completed action moves on its run in the version that the run goes by. -/
theorem resume (h : s.Pinned pins) {c : Action} {a : Assignment} (hc : c.Pinned pins)
    (hresume : Dispatch.resume s.flows s.actions c = some a) :
    pins a.run.correlationId = some a.run.flow := by
  obtain ⟨flow, step, hpin, hcarries⟩ := hc
  obtain ⟨uuid, huuid, hfound⟩ := h.versions.found flow (h.known _ _ hpin).1
  unfold Dispatch.resume at hresume
  simp only [Option.bind_eq_bind, Option.bind_eq_some_iff, Option.pure_def,
    Option.some.injEq] at hresume
  obtain ⟨result, -, uuid', huuid', flow', hfound', rfl⟩ := hresume
  have hsame : uuid' = uuid := by
    rw [hcarries.version, huuid, Option.some.injEq] at huuid'
    exact huuid'.symm
  rw [hsame, hfound, Option.some.injEq] at hfound'
  exact hfound' ▸ hpin

/-- An event starts runs under identifiers that no run has, so each of them may be given a version. -/
theorem start (h : s.Pinned pins) {ids : List String} {event : Event} {found : List Assignment}
    (hfound : s.found ids (.published event) = found)
    (hdemand : ids.length = s.demand (.published event)) (hnodup : ids.Nodup)
    (hfresh : ∀ id ∈ ids, id ∉ s.names) (hids : ∀ id ∈ ids, id ≠ "") (i : Nat) :
    (s.give i ids).Pinned (pins.bind found) ∧
      ∀ a ∈ found, pins.bind found a.run.correlationId = some a.run.flow := by
  have hstarted : ∀ a ∈ found, ∃ n : Nat, found[n]? = some a ∧
      ids[n]? = some a.run.correlationId ∧ a.run.flow ∈ s.flows.history := by
    intro a ha
    obtain ⟨n, hn⟩ := List.getElem?_of_mem ha
    obtain ⟨flow, id, hflow, hid, rfl⟩ := found_started hdemand (hfound ▸ hn)
    exact ⟨n, hn, hid, h.versions.mem_history hflow⟩
  have hext : pins.Extends (pins.bind found) := by
    refine Pins.extends_bind fun a ha flow hpin => ?_
    obtain ⟨n, -, hid, -⟩ := hstarted a ha
    exact absurd (h.known _ _ hpin).2.1 (hfresh _ (List.mem_of_getElem? hid))
  refine ⟨⟨h.versions, ?_, fun id a ha => (h.actions id a ha).extend hext,
    h.tasks.imp fun _ _ ht => ht.extend hext⟩, fun a ha => Pins.bind_of_mem ?_ ha⟩
  · intro id flow hpin
    rcases Pins.bind_eq_some hpin with hold | ⟨a, ha, rfl, rfl⟩
    · exact (h.give i ids).known id flow hold
    · obtain ⟨n, -, hid, hflow⟩ := hstarted a ha
      have hmem := List.mem_of_getElem? hid
      rw [names_give]
      exact ⟨hflow, List.mem_append_right _ hmem, hids _ hmem⟩
  · intro a ha b hb hrun
    obtain ⟨n, hn, hid, -⟩ := hstarted a ha
    obtain ⟨m, hm, hid', -⟩ := hstarted b hb
    have hlt : n < ids.length := (List.getElem?_eq_some_iff.1 hid).1
    have hplace : n = m :=
      (List.getElem?_inj hlt hnodup).1 (hid.trans ((congrArg some hrun).trans hid'.symm))
    rw [hplace, hm] at hn
    rw [Option.some.inj hn]

end Pinned

/-- A run sets out for steps of its version that listen to the event. -/
theorem pinned_setOut {pins : Pins} {mode : DependencyMode} {a : Assignment} (since : Nat)
    (hrun : pins a.run.correlationId = some a.run.flow) :
    (Walk.setOut mode a since).Pinned pins where
  run := hrun
  steps := by
    intro step hstep
    obtain ⟨hmember, hlistens, -⟩ := FlowInstance.mem_candidates.1 hstep
    exact ⟨hmember, hlistens⟩
  draft := fun b hb => by cases hb

/-- A load pins the runs that it finds, -/
theorem Pinned.load {pins : Pins} {s : Floor} (h : s.Pinned pins) {i : Nat} {ids : List String}
    {report : Report} (htask : s.tasks[i]? = some (.dispatch report false))
    (hdemand : ids.length = s.demand report) (hnodup : ids.Nodup)
    (hfresh : ∀ id ∈ ids, id ∉ s.names) (hids : ∀ id ∈ ids, id ≠ "") :
    ∃ pins', (s.loaded i ids report).Pinned pins' := by
  suffices ∃ pins', (s.give i ids).Pinned pins' ∧ Task.Pinned pins' (.dispatch report true) ∧
      ∀ a ∈ s.found ids report, pins' a.run.correlationId = some a.run.flow by
    obtain ⟨pins', hgiven, hreport, hfound⟩ := this
    refine ⟨pins', (hgiven.put hreport).begin fun t ht => ?_⟩
    obtain ⟨a, ha, rfl⟩ := List.mem_map.1 ht
    exact pinned_setOut _ (hfound a ha)
  cases report with
  | published event =>
      obtain ⟨hgiven, hfound⟩ := h.start rfl hdemand hnodup hfresh hids i
      exact ⟨_, hgiven, trivial, hfound⟩
  | completed c =>
      have hc : c.Pinned pins := h.tasks i _ htask
      exact ⟨pins, h.give i ids, hc, fun a ha => h.resume hc (Option.mem_toList.1 ha)⟩

/-- and no other move changes what is pinned. -/
theorem Effect.pinned {pins : Pins} {s s' : Floor} {move : Move} (h : s.Pinned pins)
    (hids : ∀ id ∈ move.ids, id ≠ "") (heffect : s.Effect move s') : ∃ pins', s'.Pinned pins' := by
  cases heffect with
  | registered hvalid hfresh => exact ⟨pins, h.register hvalid hfresh⟩
  | unregistered => exact ⟨pins, h.remove _⟩
  | published | completeMissed => exact ⟨pins, h.begin (by simp [Task.Pinned])⟩
  | takeBegun =>
      refine ⟨pins, h.begin fun t ht => ?_⟩
      obtain rfl := List.mem_singleton.1 ht
      exact fun a ha => h.candidates ha
  | completeBegun hstored =>
      refine ⟨pins, h.begin fun t ht => ?_⟩
      obtain rfl := List.mem_singleton.1 ht
      exact h.actions _ _ hstored
  | loaded htask hdemand hnodup hfresh => exact h.load htask hdemand hnodup hfresh hids
  | @drafted i renderer stamp w step rest a htask hsteps hnone heval =>
      have hw : w.Pinned pins := h.tasks _ _ htask
      refine ⟨pins, (h.give i _).put ⟨hw.run, hw.steps, fun b hb => ?_⟩⟩
      obtain rfl := Option.some.inj hb
      exact hw.adopt hsteps heval
  | passed htask | addRefused htask =>
      exact ⟨pins, h.put (Walk.Pinned.skip (h.tasks _ _ htask))⟩
  | takeTimed htask =>
      refine ⟨pins, h.put ?_⟩
      exact (h.tasks _ _ htask :)
  | completeTimed htask =>
      refine ⟨pins, h.put ?_⟩
      exact (h.tasks _ _ htask :)
  | added htask hsteps hdraft hadd =>
      have hw : Walk.Pinned pins _ := h.tasks _ _ htask
      obtain ⟨-, rfl, rfl⟩ := ActionStore.add_eq_ok.1 hadd
      exact ⟨pins, h.accept (hw.draft _ hdraft) rfl (hw.stored _ _)⟩
  | queueEmpty | claimFailed => exact ⟨pins, h.put trivial⟩
  | claimed htask hclaim =>
      obtain ⟨-, b, -, -, rfl, rfl⟩ := Broker.claim_eq_ok.1 hclaim
      have ha : Action.Pinned pins _ := h.tasks _ _ htask _ List.mem_cons_self
      refine ⟨pins, h.accept ha rfl ?_⟩
      trivial
  | claimLost htask =>
      refine ⟨pins, h.put fun b hb => ?_⟩
      exact h.tasks _ _ htask b (List.mem_cons_of_mem _ hb)
  | settled htask hsettle =>
      obtain ⟨-, -, b, -, -, rfl, rfl⟩ := Broker.settle_eq_ok_some.1 hsettle
      have ha : Action.Pinned pins _ := h.tasks _ _ htask
      refine ⟨pins, h.accept ha rfl fun c hc => ?_⟩
      simp only [Except.ok.injEq, Option.some.injEq] at hc
      exact ha.of_core (hc ▸ rfl)
  | settleIgnored | settleRefused => exact ⟨pins, h.put (by simp [Task.Pinned])⟩
  | dispatched htask =>
      have houtcome := h.tasks _ _ htask
      refine ⟨pins, (h.put ?_).begin fun t ht => ?_⟩
      · exact houtcome
      · obtain rfl := List.mem_singleton.1 ht
        exact houtcome _ rfl
  | answered htask =>
      refine ⟨pins, h.put ?_⟩
      exact (h.tasks _ _ htask :)
  | expired => exact ⟨pins, h.filter _⟩

end Floor

end Orchestrator
