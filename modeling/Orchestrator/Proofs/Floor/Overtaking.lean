import Orchestrator.Proofs.Dispatch
import Orchestrator.Proofs.Floor.Lifecycle

/-!
How many actions a step gets in one run of a flow. A walk passes over the steps that had an action when
its run was found, and what other walks of the same run store after that it does not see. So it may
store a second action for a step, and does so exactly if it is overtaken: if another walk has stored an
action for the step after the run was found, and before this one comes to store its own.

This is the only way to a second action. Walks that are never overtaken keep every step of every run to
one action, whatever else happens on the floor.
-/

namespace Orchestrator

/-- What holds of a walk about the steps before it. -/
structure Walk.Ahead (journal : List Entry) (names : List String) (i : Nat) (w : Walk) : Prop where
  named : w.run.correlationId ∈ names
  distinct : (w.steps.map (·.id)).Nodup
  since : w.since ≤ journal.length
  /-- None of them had an action when the run was found, -/
  clear : ∀ e ∈ journal.take w.since, e.action.correlationId = w.run.correlationId →
    e.action.stepId ∉ w.steps.map (·.id)
  /-- and for none of them has the walk itself stored one. -/
  own : ∀ e ∈ journal, e.task = i → e.action.stepId ∉ w.steps.map (·.id)

namespace Walk.Ahead

variable {journal : List Entry} {names : List String} {i : Nat} {w : Walk}

theorem give (h : w.Ahead journal names i) (more : List String) :
    w.Ahead journal (names ++ more) i :=
  { h with named := List.mem_append_left _ h.named }

theorem write {e : Entry} (h : w.Ahead journal names i) (hother : e.task ≠ i) :
    w.Ahead (journal ++ [e]) names i where
  named := h.named
  distinct := h.distinct
  since := by
    have := h.since
    simp only [List.length_append]
    omega
  clear := by
    rw [List.take_append_of_le_length h.since]
    exact h.clear
  own := by
    intro d hd hi
    rcases List.mem_append.1 hd with hold | hnew
    · exact h.own d hold hi
    · obtain rfl := List.mem_singleton.1 hnew
      exact absurd hi hother

theorem skip (h : w.Ahead journal names i) : w.skip.Ahead journal names i where
  named := h.named
  distinct := h.distinct.sublist ((List.tail_sublist _).map _)
  since := h.since
  clear := fun e he hrun hmem =>
    h.clear e he hrun (((List.tail_sublist _).map _).subset hmem)
  own := fun e he hi hmem => h.own e he hi (((List.tail_sublist _).map _).subset hmem)

theorem stored {step : Step} {rest : List Step} {a : Action} (h : w.Ahead journal names i)
    (hsteps : w.steps = step :: rest) (ha : a.stepId = step.id) :
    (w.stored step a).Ahead (journal ++ [⟨i, a⟩]) names i where
  named := h.named
  distinct := h.skip.distinct
  since := by
    have : w.since ≤ journal.length := h.since
    simp only [Walk.stored, Walk.skip, List.length_append]
    omega
  clear := by
    have hclear := h.skip.clear
    have htake : (journal ++ [(⟨i, a⟩ : Entry)]).take w.skip.since = journal.take w.skip.since :=
      List.take_append_of_le_length h.skip.since
    rw [← htake] at hclear
    exact hclear
  own := by
    intro d hd hi
    rcases List.mem_append.1 hd with hold | hnew
    · exact h.skip.own d hold hi
    · obtain rfl := List.mem_singleton.1 hnew
      have hdistinct := h.distinct
      rw [hsteps, List.map_cons, List.nodup_cons] at hdistinct
      simp only [Walk.stored, Walk.skip, hsteps, List.tail_cons, ha]
      exact hdistinct.1

end Walk.Ahead

def Task.Ahead (journal : List Entry) (names : List String) (i : Nat) : Task → Prop
  | .walk w => w.Ahead journal names i
  | _ => True

namespace Floor

/-- What holds after a run without expiry. -/
structure Tidy (s : Floor) : Prop where
  flows : ∀ f, s.flows.Knows f → f.stepIds.Nodup
  complete : s.Complete
  /-- The identifiers of all runs were given out, -/
  named : ∀ a, Recorded s.journal a → a.correlationId ∈ s.names
  /-- and every action was put into the store once. -/
  born : ∀ a, Recorded s.journal a →
    ∃ j b, ⟨j, b⟩ ∈ s.journal ∧ b.state.value = .new ∧ b.core = a.core
  placed : ∀ e ∈ s.journal, e.task < s.tasks.length
  ahead : s.Each (Task.Ahead s.journal s.names)

theorem tidy_empty (mode : DependencyMode) : (empty mode).Tidy where
  flows := by
    rintro f (hlatest | hhistory)
    · obtain ⟨key, hkey⟩ := Dict.mem_values.1 hlatest
      cases hkey
    · cases hhistory
  complete := fun a ha => absurd ha (not_recorded_nil a)
  named := fun a ha => absurd ha (not_recorded_nil a)
  born := fun a ha => absurd ha (not_recorded_nil a)
  placed := fun e he => by cases he
  ahead := each_empty mode _

namespace Tidy

variable {s : Floor}

theorem begin (h : s.Tidy) {tasks : List Task}
    (htasks : ∀ t ∈ tasks, ∀ k, s.tasks.length ≤ k → t.Ahead s.journal s.names k) :
    (s.begin tasks).Tidy where
  flows := h.flows
  complete := h.complete
  named := h.named
  born := h.born
  placed := fun e he => by
    have := h.placed e he
    simp only [Floor.begin, List.length_append]
    omega
  ahead := by
    intro k t hk
    simp only [Floor.begin, List.getElem?_append] at hk
    split at hk
    · exact h.ahead k t hk
    · exact htasks t (List.mem_of_getElem? hk) k (by omega)

theorem put (h : s.Tidy) {i : Nat} {t : Task} (ht : t.Ahead s.journal s.names i) :
    (s.put i t).Tidy where
  flows := h.flows
  complete := h.complete
  named := h.named
  born := h.born
  placed := fun e he => by simpa [Floor.put] using h.placed e he
  ahead := h.ahead.put ht

theorem give (h : s.Tidy) (i : Nat) (ids : List String) : (s.give i ids).Tidy where
  flows := h.flows
  complete := h.complete
  named := fun a ha => by
    rw [names_give]
    exact List.mem_append_left _ (h.named a ha)
  born := h.born
  placed := h.placed
  ahead := by
    rw [names_give]
    refine h.ahead.imp fun k t ht => ?_
    cases t with
    | walk w => exact Walk.Ahead.give ht ids
    | _ => trivial

/-- A write leaves the other walks where they are. -/
theorem ahead_of_others (h : s.Tidy) {i k : Nat} {a : Action} {t : Task} (hk : k ≠ i)
    (ht : s.tasks[k]? = some t) : t.Ahead (s.journal ++ [⟨i, a⟩]) s.names k := by
  have hahead := h.ahead k t ht
  cases t with
  | walk w => exact Walk.Ahead.write hahead (Ne.symm hk)
  | _ => trivial

theorem write (h : s.Tidy) (hs : s.Sound) {i : Nat} {a : Action} {t : Task}
    (hwrite : s.Write i a t) (hcomplete : (s.write i a t).Complete) : (s.write i a t).Tidy where
  flows := h.flows
  complete := hcomplete
  named := by
    intro b hb
    rcases recorded_append_singleton.1 hb with hold | rfl
    · exact h.named b hold
    · cases hwrite with
      | birth htask _ _ hdrafted => exact hdrafted.run ▸ (h.ahead _ _ htask).named
      | take _ hstored => exact (h.named _ (hs.booked.recorded _ _ hstored) :)
      | complete _ hstored => exact (h.named _ (hs.booked.recorded _ _ hstored) :)
  born := by
    intro b hb
    have hold : ∀ c, Recorded s.journal c → ∃ j d, ⟨j, d⟩ ∈ s.journal ++ [⟨i, a⟩] ∧
        d.state.value = .new ∧ d.core = c.core := by
      intro c hc
      obtain ⟨j, d, hd, hnew, hcore⟩ := h.born c hc
      exact ⟨j, d, List.mem_append_left _ hd, hnew, hcore⟩
    rcases recorded_append_singleton.1 hb with hrecorded | rfl
    · exact hold b hrecorded
    · cases hwrite with
      | birth _ _ _ hdrafted => exact ⟨i, b, by simp [Floor.write, accept], hdrafted.new, rfl⟩
      | take _ hstored => exact (hold _ (hs.booked.recorded _ _ hstored) :)
      | complete _ hstored => exact (hold _ (hs.booked.recorded _ _ hstored) :)
  placed := by
    have hlt : i < s.tasks.length := by
      cases hwrite with
      | birth htask => exact (List.getElem?_eq_some_iff.1 htask).1
      | take htask => exact (List.getElem?_eq_some_iff.1 htask).1
      | complete htask => exact (List.getElem?_eq_some_iff.1 htask).1
    intro e he
    simp only [Floor.write, accept, Floor.put, List.length_set]
    rcases List.mem_append.1 he with hold | hnew
    · exact h.placed e hold
    · obtain rfl := List.mem_singleton.1 hnew
      exact hlt
  ahead := by
    refine each_accept (fun k t hk ht => h.ahead_of_others hk ht) ?_
    cases hwrite with
    | birth htask hsteps _ hdrafted =>
        exact Walk.Ahead.stored (h.ahead _ _ htask) hsteps (hdrafted.stepId hsteps)
    | take => trivial
    | complete => trivial

end Tidy

/-- A run sets out ahead if it knows an action of every step of it that has one. -/
theorem Tidy.setOut {s : Floor} (h : s.Tidy) {names : List String} {a : Assignment}
    (hnamed : a.run.correlationId ∈ names) (hflow : s.flows.Knows a.run.flow)
    (hknown : ∀ b, Recorded s.journal b → b.correlationId = a.run.correlationId →
      a.run.hasActionFor b.stepId = true) {k : Nat} (hk : s.tasks.length ≤ k) :
    (Walk.setOut s.mode a s.journal.length).Ahead s.journal names k where
  named := hnamed
  distinct := FlowInstance.candidates_ids_nodup (h.flows _ hflow) s.mode a.event
  since := Nat.le_refl _
  clear := by
    intro e he hrun hmem
    have hhas := hknown e.action ⟨e.task, List.mem_of_mem_take he⟩ hrun
    rw [FlowInstance.hasActionFor_of_mem_candidates hmem] at hhas
    cases hhas
  own := by
    intro e he heq
    have := h.placed e he
    omega

/-- The runs that a report moves set out ahead: new ones have no actions at all, and one that is
resumed knows all that are stored. -/
theorem Tidy.found {s : Floor} (hs : s.Sound) (h : s.Tidy) {i : Nat} {report : Report}
    {ids : List String} {a : Assignment} (htask : s.tasks[i]? = some (.dispatch report false))
    (hdemand : ids.length = s.demand report) (hfresh : ∀ id ∈ ids, id ∉ s.names)
    (ha : a ∈ s.found ids report) {k : Nat} (hk : s.tasks.length ≤ k) :
    (Walk.setOut s.mode a s.journal.length).Ahead s.journal (s.names ++ ids) k := by
  obtain ⟨n, hfound⟩ := List.getElem?_of_mem ha
  cases report with
  | published event =>
      obtain ⟨flow, id, hflow, hid, rfl⟩ := found_started hdemand hfound
      have hmem : id ∈ ids := List.mem_of_getElem? hid
      refine h.setOut (List.mem_append_right _ hmem) hflow ?_ hk
      intro b hb hrun
      -- A new run has no actions, for its identifier has not been given out before.
      have hnamed : b.correlationId ∈ s.names := h.named b hb
      rw [hrun] at hnamed
      exact absurd hnamed (hfresh _ hmem)
  | completed c =>
      obtain ⟨-, flow, result, hflow, rfl⟩ := found_resumed hfound
      have hc : Recorded s.journal c := (hs.tasks i _ htask).1
      refine h.setOut (List.mem_append_left _ (h.named c hc)) hflow ?_ hk
      intro b hb hrun
      obtain ⟨d, hd⟩ := h.complete b hb
      exact hs.hasActionFor_stored (s.actions.isListing_findCorrelated _) hb hd hrun

theorem Effect.tidy {s s' : Floor} {move : Move} (hs : s.Sound) (h : s.Tidy)
    (heffect : s.Effect move s') (hstay : move.isExpiry = false) : s'.Tidy := by
  have hcomplete : s'.Complete := heffect.complete hs h.complete hstay
  cases heffect with
  | @registered flow uuid hvalid hfresh =>
      refine { h with flows := fun f hf => ?_ }
      rcases FlowStore.Knows.add hf with hold | rfl
      · exact h.flows f hold
      · exact (FlowDefinition.stepIds_nodup_of_validate hvalid :)
  | unregistered => exact { h with flows := fun f hf => h.flows f hf.remove }
  | published | takeBegun | completeBegun | completeMissed => exact h.begin (by simp [Task.Ahead])
  | @loaded i ids report htask hdemand hnodup hfresh =>
      refine ((h.give i ids).put ?_).begin fun t ht k hk => ?_
      · trivial
      obtain ⟨a, ha, rfl⟩ := List.mem_map.1 ht
      have hplace : s.tasks.length ≤ k := by simpa [put, Floor.give] using hk
      have hahead := h.found hs htask hdemand hfresh ha hplace
      rw [← names_give s i ids] at hahead
      exact hahead
  | @drafted i renderer stamp w step rest a htask =>
      refine (h.give i [stamp.id]).put ?_
      have hahead := Walk.Ahead.give (h.ahead _ _ htask) [stamp.id]
      rw [← names_give s i [stamp.id]] at hahead
      exact ⟨hahead.named, hahead.distinct, hahead.since, hahead.clear, hahead.own⟩
  | passed htask | addRefused htask => exact h.put (Walk.Ahead.skip (h.ahead _ _ htask))
  | takeTimed | completeTimed | queueEmpty | claimLost | claimFailed | settleIgnored
  | settleRefused | answered => exact h.put trivial
  | added htask hsteps hdraft hadd =>
      obtain ⟨rfl, rfl⟩ := hs.added htask hdraft hadd
      exact h.write hs (.birth htask hsteps hdraft (hs.tasks _ _ htask _ hdraft)) hcomplete
  | @claimed i pack a taken rest now actions htask hclaim =>
      obtain ⟨ha, -⟩ := hs.tasks _ _ htask a List.mem_cons_self
      obtain ⟨hstored, hnew, rfl, rfl⟩ := hs.booked.claim ha hclaim
      exact h.write hs (.take htask hstored hnew) hcomplete
  | settled htask hsettle =>
      obtain ⟨hstored, hpending, rfl, rfl⟩ := hs.booked.settle (hs.tasks _ _ htask) hsettle
      exact h.write hs (.complete htask hstored hpending) hcomplete
  | dispatched =>
      refine (h.put ?_).begin (by simp [Task.Ahead])
      trivial
  | expired => cases hstay

theorem run_tidy {mode : DependencyMode} {moves : List Move}
    (hstay : ∀ move ∈ moves, move.isExpiry = false) : (run mode moves).Tidy := by
  exact run_invariant (tidy_empty mode) fun s s' move hmem hs h heffect =>
    heffect.tidy hs h (hstay move hmem)

/-! ## One action per step -/

/-- No two stored actions belong to one step of one run. -/
def OnePerStep (s : Floor) : Prop :=
  ∀ id id' a b, s.actions.get? id = some a → s.actions.get? id' = some b →
    a.correlationId = b.correlationId → a.stepId = b.stepId → id = id'

/-- At some moment a walk is about to store the action of a step, and another walk has stored one for
the same step since the run of the first was found. -/
def Overtaken (mode : DependencyMode) (moves : List Move) : Prop :=
  ∃ before i after w a, moves = before ++ .call i :: after ∧
    (run mode before).tasks[i]? = some (.walk w) ∧ w.draft = some a ∧
    ∃ j b, ⟨j, b⟩ ∈ (run mode before).journal.drop w.since ∧ j ≠ i ∧ b.state.value = .new ∧
      b.correlationId = a.correlationId ∧ b.stepId = a.stepId

/-- No two actions that were ever stored belong to one step of one run. -/
def Single (s : Floor) : Prop :=
  ∀ a b, Recorded s.journal a → Recorded s.journal b →
    a.correlationId = b.correlationId → a.stepId = b.stepId → a.id = b.id

/-- No two actions that were ever stored belong to this step of this run. -/
def SingleAt (s : Floor) (correlationId stepId : String) : Prop :=
  ∀ a b, Recorded s.journal a → Recorded s.journal b → a.IsFor correlationId stepId →
    b.IsFor correlationId stepId → a.id = b.id

theorem single_iff_singleAt {s : Floor} :
    s.Single ↔ ∀ correlationId stepId, s.SingleAt correlationId stepId := by
  constructor
  · intro h correlationId stepId a b ha hb hfor hbfor
    exact h a b ha hb (hfor.1.trans hbfor.1.symm) (hfor.2.trans hbfor.2.symm)
  · intro h a b ha hb hrun hstep
    exact h a.correlationId a.stepId a b ha hb ⟨rfl, rfl⟩ ⟨hrun.symm, hstep.symm⟩

/-- While no two stored actions belong to one step, a run that is resumed is the same in whichever
order the store lists its actions. -/
theorem OnePerStep.resume_eq {s : Floor} (h : s.OnePerStep) {actions : List Action}
    {flow : FlowDefinition} {correlationId : String} {context : Context}
    (hlisting : s.actions.IsListing correlationId actions) :
    FlowInstance.resume flow correlationId context actions =
      FlowInstance.resume flow correlationId context (s.actions.findCorrelated correlationId) := by
  refine hlisting.resume_eq fun id id' a b ha hb hrun hbrun hstep => ?_
  exact h id id' a b ha hb (hrun.trans hbrun.symm) hstep

theorem single_iff {s : Floor} (hs : s.Sound) (hcomplete : s.Complete) :
    s.OnePerStep ↔ s.Single := by
  constructor
  · intro h a b ha hb hrun hstep
    obtain ⟨c, hc⟩ := hcomplete a ha
    obtain ⟨d, hd⟩ := hcomplete b hb
    obtain ⟨hcrun, hcstep⟩ := Action.run_eq_of_core (hs.booked.latest _ _ _ hc ha rfl).core
    obtain ⟨hdrun, hdstep⟩ := Action.run_eq_of_core (hs.booked.latest _ _ _ hd hb rfl).core
    exact h _ _ c d hc hd (by rw [← hcrun, hrun, hdrun]) (by rw [← hcstep, hstep, hdstep])
  · intro h id id' a b ha hb hrun hstep
    rw [← hs.booked.keyed _ _ ha, ← hs.booked.keyed _ _ hb]
    exact h a b (hs.booked.recorded _ _ ha) (hs.booked.recorded _ _ hb) hrun hstep

/-- The next call of a task stores an action. -/
def Stores (s : Floor) (i : Nat) (a : Action) : Prop :=
  ∃ w : Walk, s.tasks[i]? = some (.walk w) ∧ w.draft = some a

/-- At some moment an action is stored for a step that has had one. -/
def RepeatedAt (mode : DependencyMode) (moves : List Move) (correlationId stepId : String) : Prop :=
  ∃ before i after a b, moves = before ++ .call i :: after ∧ (run mode before).Stores i a ∧
    Recorded (run mode before).journal b ∧ a.IsFor correlationId stepId ∧
    b.IsFor correlationId stepId

section

variable {mode : DependencyMode} {moves : List Move} {correlationId stepId : String}

theorem RepeatedAt.append (h : RepeatedAt mode moves correlationId stepId) (more : List Move) :
    RepeatedAt mode (moves ++ more) correlationId stepId := by
  obtain ⟨before, i, after, a, b, rfl, hrest⟩ := h
  exact ⟨before, i, after ++ more, a, b, by simp, hrest⟩

theorem singleAt_of_not_repeatedAt (hnot : ¬ RepeatedAt mode moves correlationId stepId) :
    (run mode moves).SingleAt correlationId stepId := by
  induction moves using List.reverseRecOn with
  | nil => exact fun a b ha => absurd ha (not_recorded_nil a)
  | append_singleton moves move ih =>
      have hsingle := ih fun h => hnot (h.append _)
      have hs := run_sound mode moves
      rw [run_snoc]
      rcases (run mode moves).step_effect move with hsame | heffect
      · rwa [hsame]
      rcases heffect.write_cases hs with
        ⟨i, a, t, rfl, hwrite, hafter⟩ | ⟨hjournal, -⟩ | ⟨-, hjournal, -⟩
      · rw [hafter]
        -- What is written belongs to a known action, or to a step that has none.
        have hwritten : ∀ b, Recorded (run mode moves).journal b → a.IsFor correlationId stepId →
            b.IsFor correlationId stepId → b.id = a.id := by
          intro b hb hfor hbfor
          rcases hwrite.cases_core with ⟨o, ho, hcore⟩ | ⟨w, _, _, htask, -, hdraft, -, -⟩
          · rw [← Action.id_eq_of_core hcore]
            exact hsingle b o hb (hs.booked.recorded _ _ ho) hbfor (hfor.of_core hcore)
          · exact absurd ⟨moves, i, [], a, b, rfl, ⟨w, htask, hdraft⟩, hb, hfor, hbfor⟩ hnot
        intro b c hb hc hbfor hcfor
        rcases recorded_append_singleton.1 hb with hbold | rfl <;>
          rcases recorded_append_singleton.1 hc with hcold | rfl
        · exact hsingle b c hbold hcold hbfor hcfor
        · exact hwritten b hbold hcfor hbfor
        · exact (hwritten c hcold hbfor hcfor).symm
        · rfl
      · rw [SingleAt, hjournal]
        exact hsingle
      · rw [SingleAt, hjournal]
        exact hsingle

theorem RepeatedAt.not_singleAt (h : RepeatedAt mode moves correlationId stepId) :
    ¬ (run mode moves).SingleAt correlationId stepId := by
  obtain ⟨before, i, after, a, b, rfl, ⟨w, htask, hdraft⟩, hb, hfor, hbfor⟩ := h
  intro hsingle
  have hs := run_sound mode before
  have hdrafted := hs.tasks _ _ htask a hdraft
  obtain ⟨step, rest, hsteps, -⟩ := hdrafted.step
  have hnext : (run mode before).step (.call i) =
      (run mode before).write i a (.walk (w.stored step a)) :=
    step_call_stored htask hsteps hdraft (hs.add_draft htask hdraft)
  -- Both actions are on record ever after.
  have hlater : ((run mode before).journal ++ [⟨i, a⟩]) <+:
      (run mode (before ++ .call i :: after)).journal := by
    rw [run_append, List.foldl_cons, hnext]
    exact journal_grows_foldl ((run mode before).write i a (.walk (w.stored step a))) after
  refine hdrafted.unused b hb (hsingle b a ?_ ?_ hbfor hfor)
  · exact (hb.append [⟨i, a⟩]).later hlater
  · exact (recorded_append_singleton.2 (.inr rfl)).later hlater

/-- A second action is made for a step only by a walk that stores it. -/
theorem singleAt_iff_not_repeatedAt (mode : DependencyMode) (moves : List Move)
    (correlationId stepId : String) :
    (run mode moves).SingleAt correlationId stepId ↔
      ¬ RepeatedAt mode moves correlationId stepId :=
  ⟨fun hsingle h => h.not_singleAt hsingle, singleAt_of_not_repeatedAt⟩

end

theorem Overtaken.append {mode : DependencyMode} {moves : List Move} (h : Overtaken mode moves)
    (more : List Move) : Overtaken mode (moves ++ more) := by
  obtain ⟨before, i, after, w, a, rfl, hrest⟩ := h
  exact ⟨before, i, after ++ more, w, a, by simp, hrest⟩

/-- If the step of a draft has an action already, the walk has been overtaken: the step had none when
the run was found, and the walk has stored none itself. -/
theorem Tidy.overtaken {mode : DependencyMode} {moves : List Move} (hs : (run mode moves).Sound)
    (h : (run mode moves).Tidy) {i : Nat} {w : Walk} {a b : Action}
    (htask : (run mode moves).tasks[i]? = some (.walk w)) (hdraft : w.draft = some a)
    (hb : Recorded (run mode moves).journal b) (hrun : b.correlationId = a.correlationId)
    (hstep : b.stepId = a.stepId) : Overtaken mode (moves ++ [.call i]) := by
  obtain ⟨j, c, hc, hnew, hcore⟩ := h.born b hb
  obtain ⟨hcrun, hcstep⟩ := Action.run_eq_of_core hcore
  have hdrafted := hs.tasks _ _ htask a hdraft
  have hahead : w.Ahead (run mode moves).journal (run mode moves).names i := h.ahead _ _ htask
  have hmem : c.stepId ∈ w.steps.map (·.id) := by
    rw [hcstep, hstep]
    exact hdrafted.mem_ids
  refine ⟨moves, i, [], w, a, rfl, htask, hdraft, j, c, ?_, ?_, hnew, hcrun.trans hrun,
    hcstep.trans hstep⟩
  · rw [← List.take_append_drop w.since (run mode moves).journal] at hc
    rcases List.mem_append.1 hc with hbefore | hsince
    · exact absurd hmem (hahead.clear _ hbefore (by rw [hcrun, hrun, hdrafted.run]))
    · exact hsince
  · rintro rfl
    exact hahead.own _ hc rfl hmem

theorem single_of_not_overtaken {mode : DependencyMode} {moves : List Move}
    (hstay : ∀ move ∈ moves, move.isExpiry = false) (hnot : ¬ Overtaken mode moves) :
    (run mode moves).Single := by
  rw [single_iff_singleAt]
  intro correlationId stepId
  rw [singleAt_iff_not_repeatedAt]
  rintro ⟨before, i, after, a, b, rfl, ⟨w, htask, hdraft⟩, hb, hfor, hbfor⟩
  have htidy : (run mode before).Tidy :=
    run_tidy fun move hmove => hstay move (List.mem_append_left _ hmove)
  apply hnot
  have hover := htidy.overtaken (run_sound mode before) htask hdraft hb
    (hbfor.1.trans hfor.1.symm) (hbfor.2.trans hfor.2.symm)
  simpa using hover.append after

theorem not_single_of_overtaken {mode : DependencyMode} {moves : List Move}
    (h : Overtaken mode moves) : ¬ (run mode moves).Single := by
  obtain ⟨before, i, after, w, a, hmoves, htask, hdraft, j, b, hb, -, -, hsame⟩ := h
  have hrecorded : Recorded (run mode before).journal b := ⟨j, List.mem_of_mem_drop hb⟩
  have hrepeated : RepeatedAt mode moves a.correlationId a.stepId :=
    ⟨before, i, after, a, b, hmoves, ⟨w, htask, hdraft⟩, hrecorded, ⟨rfl, rfl⟩, hsame⟩
  exact fun hsingle => hrepeated.not_singleAt (single_iff_singleAt.1 hsingle _ _)

/-- Without expiry, every step of every run has at most one action in the store, exactly if no walk is
ever overtaken. -/
theorem onePerStep_iff_not_overtaken (mode : DependencyMode) (moves : List Move)
    (hstay : ∀ move ∈ moves, move.isExpiry = false) :
    (run mode moves).OnePerStep ↔ ¬ Overtaken mode moves := by
  rw [single_iff (run_sound mode moves) (run_complete hstay)]
  exact ⟨fun hsingle h => not_single_of_overtaken h hsingle, single_of_not_overtaken hstay⟩

/-! ## A dinner with two desserts -/

namespace Dinner

/-- The kitchen is done with both courses, and the runs of both results are found, before either walk
comes to the dessert. -/
def hurried : List Move :=
  [.read 2 ⟨3, 0⟩, .call 2, .read 3 ⟨4, 0⟩, .call 3, .read 3 ⟨5, 0⟩, .call 3,
    .beginComplete kitchen (stamp 1).id (event "kitchen" "ready"), .read 4 ⟨6, 0⟩, .call 4, .call 4,
    .beginComplete kitchen (stamp 2).id (event "kitchen" "ready"), .read 6 ⟨7, 0⟩, .call 6, .call 6,
    .load 5 [], .load 7 [], .evaluate 8 renderer (stamp 10), .evaluate 9 renderer (stamp 11),
    .call 8, .call 9]

def desserts : List Move :=
  (ordered ++ [.beginTake kitchen none]) ++ .beginTake kitchen none :: hurried

theorem desserts_stay : ∀ move ∈ desserts, move.isExpiry = false := by
  decide +kernel

theorem made_twice (mode : DependencyMode) : ∀ n ∈ [10, 11],
    ((run mode desserts).actions.get? (stamp n).id).map (fun a => (a.correlationId, a.stepId)) =
      some ("table", "dessert") := by
  cases mode <;>
    rw [desserts, run_beginTake (by decide +kernel), run_beginTake (by decide +kernel)] <;>
    decide +kernel

theorem desserts_not_onePerStep (mode : DependencyMode) : ¬ (run mode desserts).OnePerStep := by
  intro h
  obtain ⟨a, ha, hfirst⟩ := Option.map_eq_some_iff.1 (made_twice mode 10 (by decide))
  obtain ⟨b, hb, hsecond⟩ := Option.map_eq_some_iff.1 (made_twice mode 11 (by decide))
  obtain ⟨hrun, hstep⟩ := Prod.mk.inj (hfirst.trans hsecond.symm)
  exact absurd (h _ _ a b ha hb hrun hstep) (by decide +kernel)

end Dinner

open Dinner in
/-- A valid flow, no expiry, and yet two actions for one step, whatever the dependency mode. -/
theorem second_dessert :
    flow.validate.isOk = true ∧ (∀ move ∈ desserts, move.isExpiry = false) ∧
      ¬ (run .any desserts).OnePerStep ∧ ¬ (run .all desserts).OnePerStep :=
  ⟨by decide +kernel, desserts_stay, desserts_not_onePerStep .any, desserts_not_onePerStep .all⟩

open Dinner in
theorem dessert_overtaken : Overtaken .all desserts := by
  by_contra hnot
  exact desserts_not_onePerStep .all
    ((onePerStep_iff_not_overtaken .all desserts desserts_stay).2 hnot)

end Floor

end Orchestrator
