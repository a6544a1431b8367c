import Orchestrator.Proofs.Dispatch
import Orchestrator.Proofs.Floor.Lifecycle
import Orchestrator.Proofs.Store.Flow

/-!
Where actions come from, after any run and whatever expires in it. Every action that was ever stored
was made for a step of a flow, in the version that the store of flows still has, under the identifier
of a run that was given out, and only once what the step depends on had finished.

A walk decides this with what it read when its run was found. That is enough, since nothing it relies
on is ever taken back: flows stay in the history, entries stay in the journal, and identifiers stay
given out.
-/

namespace Orchestrator

namespace Floor

/-- What is known at one moment is known at the other. -/
structure Grows (s s' : Floor) : Prop where
  mode : s'.mode = s.mode
  flows : ∀ f ∈ s.flows.history, f ∈ s'.flows.history
  journal : s.journal <+: s'.journal
  names : ∀ id ∈ s.names, id ∈ s'.names

theorem grows_begin (s : Floor) (tasks : List Task) : s.Grows (s.begin tasks) :=
  ⟨rfl, fun _ hf => hf, List.prefix_rfl, fun _ hid => hid⟩

theorem grows_put (s : Floor) (i : Nat) (t : Task) : s.Grows (s.put i t) :=
  ⟨rfl, fun _ hf => hf, List.prefix_rfl, fun _ hid => hid⟩

theorem grows_give (s : Floor) (i : Nat) (ids : List String) : s.Grows (s.give i ids) where
  mode := rfl
  flows := fun _ hf => hf
  journal := List.prefix_rfl
  names := by
    intro id hid
    rw [names_give]
    exact List.mem_append_left _ hid

theorem Effect.grows {s s' : Floor} {move : Move} (heffect : s.Effect move s') : s.Grows s' := by
  have hjournal := heffect.journal_grows
  cases heffect with
  | registered => exact ⟨rfl, fun f hf => List.mem_cons_of_mem _ hf, hjournal, fun id hid => hid⟩
  | loaded | drafted => exact ⟨rfl, fun f hf => hf, hjournal, (s.grows_give _ _).names⟩
  | _ => exact ⟨rfl, fun f hf => hf, hjournal, fun id hid => hid⟩

theorem run_mode (mode : DependencyMode) (moves : List Move) : (run mode moves).mode = mode :=
  run_invariant (P := fun s => s.mode = mode) rfl
    fun _ _ _ _ _ hmode heffect => heffect.grows.mode.trans hmode

theorem Grows.refl (s : Floor) : s.Grows s :=
  ⟨rfl, fun _ hf => hf, List.prefix_rfl, fun _ hid => hid⟩

theorem Grows.trans {s t u : Floor} (hst : s.Grows t) (htu : t.Grows u) : s.Grows u where
  mode := htu.mode.trans hst.mode
  flows := fun f hf => htu.flows f (hst.flows f hf)
  journal := hst.journal.trans htu.journal
  names := fun id hid => htu.names id (hst.names id hid)

theorem run_grows (mode : DependencyMode) (before after : List Move) :
    (run mode before).Grows (run mode (before ++ after)) := by
  induction after using List.reverseRecOn with
  | nil => simpa using Grows.refl (run mode before)
  | append_singleton after move ih =>
      rw [← List.append_assoc, run_snoc]
      rcases (run mode (before ++ after)).step_effect move with hsame | heffect
      · rwa [hsame]
      · exact ih.trans heffect.grows

/-- A step of a run has had an action that finished. -/
def Ended (s : Floor) (correlationId stepId : String) : Prop :=
  ∃ a, Recorded s.journal a ∧ a.correlationId = correlationId ∧ a.stepId = stepId ∧
    a.hasFinished = true

/-- What a step depends on in a run has finished. -/
def Ready (s : Floor) (correlationId : String) (step : Step) : Prop :=
  step.dependsOn = [] ∨ s.mode.Met step (s.Ended correlationId)

theorem Ended.later {s s' : Floor} {correlationId stepId : String}
    (h : s.Ended correlationId stepId) (hgrows : s.Grows s') :
    s'.Ended correlationId stepId := by
  obtain ⟨a, ha, hrest⟩ := h
  exact ⟨a, ha.later hgrows.journal, hrest⟩

theorem Ready.later {s s' : Floor} {correlationId : String} {step : Step}
    (h : s.Ready correlationId step) (hgrows : s.Grows s') : s'.Ready correlationId step := by
  rcases h with hnone | hmet
  · exact .inl hnone
  · right
    rw [hgrows.mode]
    exact hmet.imp fun _ hended => hended.later hgrows

end Floor

/-- An action was made for a step of a flow, in a run. -/
structure Action.RootedIn (s : Floor) (a : Action) (flow : FlowDefinition) (step : Step) :
    Prop where
  version : a.flowUuid = flow.uuid
  stepId : a.stepId = step.id
  named : a.correlationId ∈ s.names
  known : flow ∈ s.flows.history
  member : step ∈ flow.steps
  ready : s.Ready a.correlationId step

/-- What holds of a walk about the steps before it, and about the action that it holds. -/
structure Walk.Rooted (s : Floor) (w : Walk) : Prop where
  known : w.run.flow ∈ s.flows.history
  steps : w.steps.Sublist w.run.flow.steps
  named : w.run.correlationId ∈ s.names
  ready : ∀ step ∈ w.steps, s.Ready w.run.correlationId step
  version : ∀ a, w.draft = some a → a.flowUuid = w.run.flow.uuid

def Task.Rooted (s : Floor) : Task → Prop
  | .walk w => w.Rooted s
  | _ => True

section

variable {s s' : Floor} {a : Action} {flow : FlowDefinition} {step : Step} {w : Walk} {t : Task}

theorem Action.RootedIn.later (h : a.RootedIn s flow step) (hgrows : s.Grows s') :
    a.RootedIn s' flow step :=
  { h with
    known := hgrows.flows _ h.known
    named := hgrows.names _ h.named
    ready := h.ready.later hgrows }

theorem Action.RootedIn.of_core {b : Action} (h : a.RootedIn s flow step)
    (hcore : a.core = b.core) : b.RootedIn s flow step := by
  obtain ⟨hrun, hstep⟩ := run_eq_of_core hcore
  exact {
    version := (flowUuid_eq_of_core hcore).symm.trans h.version
    stepId := hstep.symm.trans h.stepId
    named := hrun ▸ h.named
    known := h.known
    member := h.member
    ready := hrun ▸ h.ready }

theorem Walk.Rooted.later (h : w.Rooted s) (hgrows : s.Grows s') : w.Rooted s' :=
  { h with
    known := hgrows.flows _ h.known
    named := hgrows.names _ h.named
    ready := fun step hstep => (h.ready step hstep).later hgrows }

theorem Walk.Rooted.skip (h : w.Rooted s) : w.skip.Rooted s where
  known := h.known
  steps := (List.tail_sublist _).trans h.steps
  named := h.named
  ready := fun step hstep => h.ready step (List.mem_of_mem_tail hstep)
  version := fun a ha => by cases ha

theorem Walk.Rooted.stored (h : w.Rooted s) (step : Step) (a : Action) :
    (w.stored step a).Rooted s :=
  ⟨h.known, h.skip.steps, h.named, h.skip.ready, h.skip.version⟩

theorem Task.Rooted.later (h : t.Rooted s) (hgrows : s.Grows s') : t.Rooted s' := by
  cases t with
  | walk w => exact Walk.Rooted.later h hgrows
  | _ => trivial

/-- The draft of a walk is made for the first of its steps. -/
theorem Walk.Rooted.draft (h : w.Rooted s) {i : Nat} {rest : List Step}
    (hsteps : w.steps = step :: rest) (hdraft : w.draft = some a)
    (hdrafted : Drafted s.journal s.given i w a) : a.RootedIn s w.run.flow step := by
  have hmem : step ∈ w.steps := hsteps ▸ List.mem_cons_self
  exact {
    version := h.version a hdraft
    stepId := hdrafted.stepId hsteps
    named := hdrafted.run ▸ h.named
    known := h.known
    member := h.steps.subset hmem
    ready := hdrafted.run ▸ h.ready step hmem }

end

namespace Floor

/-- What holds of all actions and walks, after every run. -/
structure Rooted (s : Floor) : Prop where
  versions : s.flows.Versioned
  actions : ∀ a, Recorded s.journal a → ∃ flow step, a.RootedIn s flow step
  tasks : s.Each fun _ t => t.Rooted s

theorem rooted_empty (mode : DependencyMode) : (empty mode).Rooted where
  versions := .empty
  actions := fun a ha => absurd ha (not_recorded_nil a)
  tasks := each_empty mode _

namespace Rooted

variable {s s' : Floor}

/-- Only what is new has to be looked at. -/
theorem grow (h : s.Rooted) (hgrows : s.Grows s') (hversions : s'.flows.Versioned)
    (hactions : ∀ a, Recorded s'.journal a → Recorded s.journal a ∨
      ∃ flow step, a.RootedIn s' flow step)
    (htasks : s'.Each fun i t => s.tasks[i]? = some t ∨ t.Rooted s') : s'.Rooted where
  versions := hversions
  actions := by
    intro a ha
    rcases hactions a ha with hold | hnew
    · obtain ⟨flow, step, hrooted⟩ := h.actions a hold
      exact ⟨flow, step, hrooted.later hgrows⟩
    · exact hnew
  tasks := htasks.imp fun i t ht => ht.elim (fun hold => (h.tasks i t hold).later hgrows) id

theorem begin (h : s.Rooted) {tasks : List Task} (htasks : ∀ t ∈ tasks, t.Rooted s) :
    (s.begin tasks).Rooted := by
  have hgrows := s.grows_begin tasks
  refine h.grow hgrows h.versions (fun _ ha => .inl ha) ?_
  exact Each.begin (fun i t ht => .inl ht) fun t ht k => .inr ((htasks t ht).later hgrows)

theorem put (h : s.Rooted) {i : Nat} {t : Task} (ht : t.Rooted s) : (s.put i t).Rooted := by
  have hgrows := s.grows_put i t
  refine h.grow hgrows h.versions (fun _ ha => .inl ha) ?_
  exact Each.put (fun k u hu => .inl hu) (.inr (ht.later hgrows))

theorem give (h : s.Rooted) (i : Nat) (ids : List String) : (s.give i ids).Rooted :=
  h.grow (s.grows_give i ids) h.versions (fun _ ha => .inl ha) fun _ _ ht => .inl ht

theorem write (h : s.Rooted) (hs : s.Sound) {i : Nat} {a : Action} {t : Task}
    (hwrite : s.Write i a t) : (s.write i a t).Rooted := by
  have hgrows : s.Grows (s.write i a t) :=
    ⟨rfl, fun f hf => hf, List.prefix_append _ _, fun id hid => hid⟩
  refine h.grow hgrows h.versions ?_ ?_
  · intro b hb
    rcases recorded_append_singleton.1 hb with hold | rfl
    · exact .inl hold
    right
    rcases hwrite.cases_core with ⟨o, ho, hcore⟩ | ⟨w, _, _, htask, hsteps, hdraft, hdrafted, -⟩
    · obtain ⟨flow, step, hrooted⟩ := h.actions o (hs.booked.recorded _ _ ho)
      exact ⟨flow, step, (hrooted.of_core hcore).later hgrows⟩
    · have hw : w.Rooted s := h.tasks _ _ htask
      exact ⟨_, _, (hw.draft hsteps hdraft hdrafted).later hgrows⟩
  · refine each_accept (fun k u _ hu => .inl hu) (.inr ?_)
    cases hwrite with
    | birth htask =>
        have hw : Walk.Rooted s _ := h.tasks _ _ htask
        exact (hw.stored _ _).later hgrows
    | take => trivial
    | complete => trivial

end Rooted

/-- A run sets out only for steps that are ready as far as it knows. -/
theorem rooted_setOut {s : Floor} {a : Assignment} (since : Nat)
    (hflow : a.run.flow ∈ s.flows.history) (hnamed : a.run.correlationId ∈ s.names)
    (hknown : ∀ id, a.run.stepFinished id = true → s.Ended a.run.correlationId id) :
    (Walk.setOut s.mode a since).Rooted s where
  known := hflow
  steps := List.filter_sublist
  named := hnamed
  ready := by
    intro step hstep
    obtain ⟨-, -, -, hsatisfied⟩ := FlowInstance.mem_candidates.1 hstep
    rcases DependencyMode.satisfied_iff.1 hsatisfied with hnone | hmet
    · exact .inl hnone
    · exact .inr (hmet.imp hknown)
  version := fun b hb => by cases hb

/-- What a run knows to have finished has finished. -/
theorem Rooted.found {s : Floor} (hs : s.Sound) (h : s.Rooted) {i : Nat} {report : Report}
    {ids : List String} {a : Assignment} (htask : s.tasks[i]? = some (.dispatch report false))
    (hdemand : ids.length = s.demand report) (ha : a ∈ s.found ids report) :
    (Walk.setOut s.mode a s.journal.length).Rooted (s.give i ids) := by
  obtain ⟨n, hfound⟩ := List.getElem?_of_mem ha
  cases report with
  | published event =>
      obtain ⟨flow, id, hflow, hid, rfl⟩ := found_started hdemand hfound
      refine rooted_setOut (s := s.give i ids) _ (h.versions.mem_history hflow) ?_ fun d hd => ?_
      · rw [names_give]
        exact List.mem_append_right _ (List.mem_of_getElem? hid)
      · rw [FlowInstance.not_stepFinished_start] at hd
        cases hd
  | completed c =>
      obtain ⟨-, flow, result, hflow, rfl⟩ := found_resumed hfound
      have hc : Recorded s.journal c := (hs.tasks i _ htask).1
      obtain ⟨_, _, hrooted⟩ := h.actions c hc
      refine rooted_setOut (s := s.give i ids) _ (h.versions.mem_history hflow) ?_ fun d hd => ?_
      · rw [names_give]
        exact List.mem_append_left _ hrooted.named
      · have hlisting := s.actions.isListing_findCorrelated c.correlationId
        obtain ⟨id, b, hstored, hrun, hstep, hfinished⟩ := hlisting.finished_of_stepFinished hd
        exact ⟨b, hs.booked.recorded id b hstored, hrun, hstep, hfinished⟩

/-- The flows of the store have been validated. -/
theorem Rooted.stepIds_nodup {s : Floor} (h : s.Rooted) {f : FlowDefinition}
    (hf : s.flows.Knows f) : f.stepIds.Nodup :=
  FlowDefinition.stepIds_nodup_of_validate (h.versions.valid f (h.versions.mem_history hf))

theorem Effect.rooted {s s' : Floor} {move : Move} (hs : s.Sound) (h : s.Rooted)
    (heffect : s.Effect move s') : s'.Rooted := by
  have hgrows := heffect.grows
  cases heffect with
  | registered hvalid hfresh =>
      exact h.grow hgrows (h.versions.add hvalid hfresh) (fun _ ha => .inl ha) fun _ _ ht => .inl ht
  | unregistered =>
      exact h.grow hgrows (h.versions.remove _) (fun _ ha => .inl ha) fun _ _ ht => .inl ht
  | expired => exact h.grow hgrows h.versions (fun _ ha => .inl ha) fun _ _ ht => .inl ht
  | published | takeBegun | completeBegun | completeMissed => exact h.begin (by simp [Task.Rooted])
  | @loaded i ids report htask hdemand =>
      refine ((h.give i ids).put ?_).begin fun t ht => ?_
      · trivial
      obtain ⟨a, ha, rfl⟩ := List.mem_map.1 ht
      exact (h.found hs htask hdemand ha).later (grows_put _ _ _)
  | @drafted i renderer stamp w step rest a htask =>
      refine (h.give i [stamp.id]).put ?_
      have hw : w.Rooted (s.give i [stamp.id]) := (h.give i [stamp.id]).tasks _ _ htask
      refine ⟨hw.known, hw.steps, hw.named, hw.ready, ?_⟩
      intro b hb
      obtain rfl := Option.some.inj hb
      rfl
  | passed htask | addRefused htask => exact h.put (Walk.Rooted.skip (h.tasks _ _ htask))
  | takeTimed | completeTimed | queueEmpty | claimLost | claimFailed | settleIgnored
  | settleRefused | answered => exact h.put trivial
  | added htask hsteps hdraft hadd =>
      obtain ⟨rfl, rfl⟩ := hs.added htask hdraft hadd
      exact h.write hs (.birth htask hsteps hdraft (hs.tasks _ _ htask _ hdraft))
  | @claimed i pack a taken rest now actions htask hclaim =>
      obtain ⟨ha, -⟩ := hs.tasks _ _ htask a List.mem_cons_self
      obtain ⟨hstored, hnew, rfl, rfl⟩ := hs.booked.claim ha hclaim
      exact h.write hs (.take htask hstored hnew)
  | settled htask hsettle =>
      obtain ⟨hstored, hpending, rfl, rfl⟩ := hs.booked.settle (hs.tasks _ _ htask) hsettle
      exact h.write hs (.complete htask hstored hpending)
  | dispatched =>
      refine (h.put ?_).begin (by simp [Task.Rooted])
      trivial

theorem run_rooted (mode : DependencyMode) (moves : List Move) : (run mode moves).Rooted :=
  run_invariant (rooted_empty mode) fun _ _ _ _ hs h heffect => heffect.rooted hs h

end Floor

end Orchestrator
