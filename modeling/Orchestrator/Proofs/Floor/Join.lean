import Orchestrator.Proofs.Floor.Causality
import Orchestrator.Proofs.Floor.Overtaking
import Orchestrator.Proofs.Floor.Walks
import Orchestrator.Proofs.Floor.Winner

/-!
Steps that join others. Such a step is only looked at when a result arrives, with what was stored when
the run was found for that result; so several dispatches may each find one of the others unfinished.

The join is not lost all the same. The action that is completed last is dispatched after its
completion, and the run is found after that, with all that the step depends on. Then the step has an
action already, or the walk comes to it and stores one.
-/

namespace Orchestrator

/-- A walk of a run comes to a step, for an event and in a context. -/
structure Walk.ComesTo (w : Walk) (correlationId : String) (context : Context) (event : Event)
    (step : Step) : Prop where
  run : w.run.correlationId = correlationId
  context : w.run.context = context
  event : w.event = event
  before : step ∈ w.steps

theorem Walk.ComesTo.skip {w : Walk} {correlationId : String} {context : Context} {event : Event}
    {first step : Step} {rest : List Step} (h : w.ComesTo correlationId context event step)
    (hsteps : w.steps = first :: rest) (hne : first ≠ step) :
    w.skip.ComesTo correlationId context event step where
  run := h.run
  context := h.context
  event := h.event
  before := by
    have hmem := h.before
    rw [hsteps, List.mem_cons] at hmem
    rw [Walk.skip, hsteps]
    exact hmem.resolve_left fun heq => hne heq.symm

/-- A task has nothing left to do about what has been completed. -/
def Task.idle : Task → Bool
  | .completed _ _ _ (.ok (some _)) answered => answered
  | .dispatch (.completed _) done => done
  | .walk w => w.steps.isEmpty
  | _ => true

namespace Floor

/-- Nothing is left to be done about what a run has completed: the requests are answered, the
dispatches have found the run, and its walks are over. -/
structure Settled (s : Floor) (correlationId : String) : Prop where
  answered : ∀ (i : Nat) (pack : Pack) (id : String) (read : Option Action) (a : Action)
    (answered : Bool), s.tasks[i]? = some (.completed pack id read (.ok (some a)) answered) →
      a.correlationId = correlationId → answered = true
  found : ∀ (k : Nat) (a : Action) (done : Bool),
    s.tasks[k]? = some (.dispatch (.completed a) done) → a.correlationId = correlationId →
      done = true
  walked : ∀ (k : Nat) (w : Walk), s.tasks[k]? = some (.walk w) →
    w.run.correlationId = correlationId → w.steps = []

theorem settled_of_idle {s : Floor} (h : s.tasks.all Task.idle = true) (correlationId : String) :
    s.Settled correlationId := by
  have hidle : s.Each fun _ t => t.idle = true := fun _ t ht =>
    List.all_eq_true.1 h t (List.mem_of_getElem? ht)
  refine ⟨?answered, ?found, ?walked⟩
  case answered => exact fun i _ _ _ _ _ htask _ => hidle i _ htask
  case found => exact fun k _ _ htask _ => hidle k _ htask
  case walked => exact fun k _ htask _ => List.isEmpty_iff.1 (hidle k _ htask)

/-- Of the actions of a run that a step depends on, one for each of its dependencies, this one was
completed last: the others had finished at a moment when it had not. -/
structure LastOf (mode : DependencyMode) (moves : List Move) (step : Step) (d : Action) : Prop where
  member : d.stepId ∈ step.dependsOn
  stored : (run mode moves).actions.get? d.id = some d
  finished : d.hasFinished = true
  single : ∀ dep ∈ step.dependsOn, ∃! id, ∃ a, (run mode moves).actions.get? id = some a ∧
    a.correlationId = d.correlationId ∧ a.stepId = dep
  last : ∃ before after, moves = before ++ after ∧
    (run mode before).actions.get? d.id ≠ some d ∧
    ∀ dep ∈ step.dependsOn, dep ≠ d.stepId → (run mode before).HasFinished d.correlationId dep

/-- Whenever a walk of the run evaluates the step for the event and in the context, this gives an
action. -/
def Gives (mode : DependencyMode) (moves : List Move) (correlationId : String) (context : Context)
    (event : Event) (step : Step) : Prop :=
  ∀ before i renderer stamp after w rest, moves = before ++ .evaluate i renderer stamp :: after →
    (run mode before).tasks[i]? = some (.walk w) → w.ComesTo correlationId context event step →
    w.steps = step :: rest → ∃ a, step.evaluate renderer event context stamp = .ok (some a)

/-! ## A walk that comes to a step -/

/-- A step of a run has had an action, or a task is a walk that comes to it. -/
def Due (s : Floor) (k : Nat) (correlationId : String) (context : Context) (event : Event)
    (step : Step) : Prop :=
  (∃ a, Recorded s.journal a ∧ a.correlationId = correlationId ∧ a.stepId = step.id) ∨
  ∃ w, s.tasks[k]? = some (.walk w) ∧ w.ComesTo correlationId context event step

section

variable {s s' : Floor} {move : Move} {k : Nat} {w v : Walk} {correlationId : String}
  {context : Context} {event : Event} {step : Step}

/-- A walk that comes to a step goes on to it. When its turn is over the step has an action. -/
theorem Effect.due (hs : s.Sound) (heffect : s.Effect move s')
    (hgives : ∀ renderer stamp w rest, move = .evaluate k renderer stamp →
      s.tasks[k]? = some (.walk w) → w.ComesTo correlationId context event step →
      w.steps = step :: rest → ∃ a, step.evaluate renderer event context stamp = .ok (some a))
    (h : s.Due k correlationId context event step) :
    s'.Due k correlationId context event step := by
  rcases h with ⟨a, ha, hrest⟩ | ⟨w, hw, hcomes⟩
  · exact .inl ⟨a, ha.later heffect.journal_grows, hrest⟩
  have hsame : s'.tasks[k]? = some (.walk w) → s'.Due k correlationId context event step :=
    fun hw' => .inr ⟨w, hw', hcomes⟩
  cases heffect with
  | registered | unregistered | expired => exact hsame hw
  | published | takeBegun | completeBegun | completeMissed => exact hsame (walk_begin hw _)
  | @loaded i ids report htask =>
      exact hsame (walk_begin (walk_put (s := s.give i ids) hw htask (by simp) _) _)
  | @drafted i renderer stamp v first rest a htask =>
      rcases walk_put_walk (s := s.give i [stamp.id]) hw htask
        { v with draft := some (v.run.adopt first a) } with hw' | ⟨-, rfl, hw'⟩
      · exact hsame hw'
      · exact .inr ⟨_, hw', hcomes.run, hcomes.context, hcomes.event, hcomes.before⟩
  | @passed i renderer stamp v first rest htask hsteps hnone hnothing =>
      rcases walk_put_walk hw htask v.skip with hw' | ⟨rfl, rfl, hw'⟩
      · exact hsame hw'
      · refine .inr ⟨_, hw', hcomes.skip hsteps ?_⟩
        rintro rfl
        obtain ⟨a, ha⟩ := hgives renderer stamp v rest rfl htask hcomes hsteps
        rw [hcomes.event, hcomes.context] at hnothing
        exact hnothing a ha
  | takeTimed htask | completeTimed htask | queueEmpty htask | claimed htask | claimLost htask
  | claimFailed htask | settled htask | settleIgnored htask | settleRefused htask
  | answered htask => exact hsame (walk_put hw htask (by simp) _)
  | @added i v first rest a stored actions htask hsteps hdraft hadd =>
      obtain ⟨rfl, -⟩ := hs.added htask hdraft hadd
      rcases walk_put_walk hw htask (v.stored first stored) with hw' | ⟨rfl, rfl, hw'⟩
      · exact hsame hw'
      · have hdrafted := hs.tasks _ _ htask stored hdraft
        by_cases hfirst : first = step
        · subst hfirst
          refine .inl ⟨stored, ⟨i, by simp [accept]⟩, ?_, hdrafted.stepId hsteps⟩
          exact hdrafted.run.trans hcomes.run
        · have hskip := hcomes.skip hsteps hfirst
          exact .inr ⟨_, hw', hskip.run, hskip.context, hskip.event, hskip.before⟩
  | addRefused htask _ hdraft hadd =>
      rw [hs.add_draft htask hdraft] at hadd
      cases hadd
  | dispatched htask => exact hsame (walk_begin (walk_put hw htask (by simp) _) _)

/-- A dispatch that finds all of a step's dependencies finished finds an action for the step, or sets
out a walk that comes to it. -/
theorem due_loaded (hs : s.Sound) {d : Action} {flow : FlowDefinition}
    (hresume : Dispatch.resume s.flows s.actions d = some ⟨FlowInstance.resume flow d.correlationId
      d.context (s.actions.findCorrelated d.correlationId), event⟩)
    (hstep : step ∈ flow.steps) (hlistens : step.listensTo event = true)
    (hsatisfied : s.mode.satisfied step (FlowInstance.resume flow d.correlationId d.context
      (s.actions.findCorrelated d.correlationId)) = true) (k : Nat) (ids : List String) :
    (s.loaded k ids (.completed d)).Due s.tasks.length d.correlationId d.context event step := by
  cases hhas : (FlowInstance.resume flow d.correlationId d.context
    (s.actions.findCorrelated d.correlationId)).hasActionFor step.id with
  | true =>
      have hlisting := s.actions.isListing_findCorrelated d.correlationId
      obtain ⟨id, a, hstored, hrun, hid⟩ := hlisting.hasActionFor_iff.1 hhas
      exact .inl ⟨a, hs.booked.recorded id a hstored, hrun, hid⟩
  | false =>
      refine .inr ⟨.setOut s.mode ⟨_, event⟩ s.journal.length, ?_, rfl, rfl, rfl,
        FlowInstance.mem_candidates.2 ⟨hstep, hlistens, hhas, hsatisfied⟩⟩
      simp only [loaded, found, hresume, begin, put, give, Option.toList_some, List.map_cons,
        List.map_nil, List.getElem?_append_right, List.length_set, Nat.le_refl, Nat.sub_self,
        List.getElem?_cons_zero]
      rfl

end

/-! ## The last of a step's dependencies -/

section

variable {mode : DependencyMode} {before after : List Move} {step : Step} {d : Action}

/-- Without expiry, an action that has finished is stored as it is, -/
theorem stored_of_finished {moves : List Move} (hstay : ∀ move ∈ moves, move.isExpiry = false)
    (hd : Recorded (run mode moves).journal d) (hfinished : d.hasFinished = true) :
    (run mode moves).actions.get? d.id = some d := by
  have hbooked := (run_sound mode moves).booked
  obtain ⟨b, hb⟩ := run_complete hstay d hd
  have hbrecorded := hbooked.recorded _ _ hb
  have holder := hbooked.latest _ _ _ hb hd rfl
  have hbfinished : b.hasFinished = true :=
    holder.hasFinished (hbooked.lived d hd) (hbooked.lived b hbrecorded) hfinished
  rw [hb, hbooked.eq_of_finished hbrecorded hd holder.id.symm hbfinished hfinished]

/-- and stays so. -/
theorem stays_finished (hstay : ∀ move ∈ before ++ after, move.isExpiry = false) {id : String}
    (hd : (run mode before).actions.get? id = some d) (hfinished : d.hasFinished = true) :
    (run mode (before ++ after)).actions.get? id = some d := by
  have hbooked := (run_sound mode before).booked
  obtain rfl : d.id = id := hbooked.keyed id d hd
  exact stored_of_finished hstay
    ((hbooked.recorded _ d hd).later (run_journal_grows mode before after)) hfinished

theorem HasFinished.later (hstay : ∀ move ∈ before ++ after, move.isExpiry = false)
    {correlationId stepId : String} (h : (run mode before).HasFinished correlationId stepId) :
    (run mode (before ++ after)).HasFinished correlationId stepId := by
  obtain ⟨id, a, ha, hrun, hstep, hfinished⟩ := h
  exact ⟨id, a, stays_finished hstay ha hfinished, hrun, hstep, hfinished⟩

/-- Once the last of a step's dependencies has finished, the others have. -/
theorem LastOf.hasFinished (hstay : ∀ move ∈ before ++ after, move.isExpiry = false)
    (h : LastOf mode (before ++ after) step d)
    (hd : (run mode before).actions.get? d.id = some d) {dep : String}
    (hdep : dep ∈ step.dependsOn) : (run mode before).HasFinished d.correlationId dep := by
  by_cases hown : dep = d.stepId
  · exact ⟨d.id, d, hd, rfl, hown.symm, h.finished⟩
  obtain ⟨early, late, hmoves, hnot, hothers⟩ := h.last
  rcases List.append_eq_append_iff.1 hmoves with ⟨between, rfl, hafter⟩ |
    ⟨between, rfl, -⟩
  · refine absurd (stays_finished (fun move hmove => hstay move ?_) hd h.finished) hnot
    rw [hafter, ← List.append_assoc]
    exact List.mem_append_left _ hmove
  · refine (hothers dep hdep hown).later fun move hmove => hstay move ?_
    exact List.mem_append_left _ hmove

/-- At every moment a run has at most one action for each of a step's dependencies, -/
theorem LastOf.eq_of_stored (hstay : ∀ move ∈ before ++ after, move.isExpiry = false)
    (h : LastOf mode (before ++ after) step d) {dep id id' : String} (hdep : dep ∈ step.dependsOn)
    {a b : Action} (ha : (run mode before).actions.get? id = some a)
    (harun : a.correlationId = d.correlationId) (hastep : a.stepId = dep)
    (hb : (run mode before).actions.get? id' = some b)
    (hbrun : b.correlationId = d.correlationId) (hbstep : b.stepId = dep) : a = b := by
  have hlater : ∀ {id : String} {a : Action}, (run mode before).actions.get? id = some a →
      a.correlationId = d.correlationId → a.stepId = dep →
      ∃ b, (run mode (before ++ after)).actions.get? id = some b ∧
        b.correlationId = d.correlationId ∧ b.stepId = dep := by
    intro id a ha harun hastep
    obtain ⟨b, hb, holder⟩ := stays_stored hstay ha
    obtain ⟨hrun, hstep⟩ := Action.run_eq_of_core holder.core
    exact ⟨b, hb, hrun ▸ harun, hstep ▸ hastep⟩
  have hid : id = id' :=
    (h.single dep hdep).unique (hlater ha harun hastep) (hlater hb hbrun hbstep)
  subst hid
  exact Option.some.inj (ha.symm.trans hb)

/-- so the run that is found for the last of them knows them all to have finished. -/
theorem LastOf.stepFinished (hstay : ∀ move ∈ before ++ after, move.isExpiry = false)
    (h : LastOf mode (before ++ after) step d)
    (hd : (run mode before).actions.get? d.id = some d) (flow : FlowDefinition)
    {actions : List Action} (hlisting : (run mode before).actions.IsListing d.correlationId actions)
    {dep : String} (hdep : dep ∈ step.dependsOn) :
    (FlowInstance.resume flow d.correlationId d.context actions).stepFinished dep = true := by
  obtain ⟨id, a, ha, hrun, hstep, hfinished⟩ := h.hasFinished hstay hd hdep
  refine hlisting.stepFinished ⟨id, a, ha, hrun, hstep⟩ fun id' b hb hbrun hbstep => ?_
  rw [h.eq_of_stored hstay hdep hb hbrun hbstep ha hrun hstep]
  exact hfinished

/-- The flow of an action is found, at every moment from then on, as it is found in the end. -/
theorem getByUuid?_of_recorded (hd : Recorded (run mode before).journal d) {uuid : Uuid}
    {flow : FlowDefinition} (huuid : d.flowUuid = some uuid)
    (hflow : (run mode (before ++ after)).flows.getByUuid? uuid = some flow) :
    (run mode before).flows.getByUuid? uuid = some flow := by
  obtain ⟨uuid', flow', -, huuid', hflow', -⟩ := (run_rooted mode before).step? hd
  obtain rfl : uuid' = uuid := Option.some.inj (huuid'.symm.trans huuid)
  have hhistory : flow' ∈ (run mode (before ++ after)).flows.history :=
    (run_grows mode before after).flows _ (List.mem_of_find?_eq_some hflow')
  obtain ⟨u, hu, hfound⟩ := (run_rooted mode (before ++ after)).versions.found flow' hhistory
  have hversion : flow'.uuid = some uuid' := by simpa using List.find?_some hflow'
  obtain rfl : uuid' = u := Option.some.inj (hversion.symm.trans hu)
  rw [hflow', ← hfound, hflow]

/-- When nothing is left to be done about a run, an action of it that has finished was dispatched, and
its dispatch has found the run. -/
theorem Settled.dispatched {s : Floor} (hfair : s.Fair) (hposted : s.Posted)
    (h : s.Settled d.correlationId) (hd : Recorded s.journal d) (hfinished : d.hasFinished = true) :
    ∃ k : Nat, s.tasks[k]? = some (.dispatch (.completed d) true) := by
  obtain ⟨i, hi⟩ := hd
  obtain ⟨t, htask, hwon⟩ := seen_eq_some.1 (hfair.credited i d hi hfinished)
  have hpassed : s.seen Task.passedOn i = some d := by
    unfold Task.won at hwon
    split at hwon
    · obtain rfl := Option.some.inj hwon
      obtain rfl := h.answered i _ _ _ _ _ htask rfl
      exact seen_eq_some.2 ⟨_, htask, rfl⟩
    · cases hwon
  obtain ⟨k, hk⟩ := hposted.dispatched i d hpassed
  obtain ⟨t, htask, hdispatches⟩ := seen_eq_some.1 hk
  unfold Task.dispatches at hdispatches
  split at hdispatches
  · obtain rfl := Option.some.inj hdispatches
    obtain rfl := h.found k _ _ htask rfl
    exact ⟨k, htask⟩
  · cases hdispatches

/-- What is due at some moment is due ever after. -/
theorem due_later (first later rest : List Move) {k : Nat} {correlationId : String}
    {context : Context} {event : Event}
    (hgives : Gives mode (first ++ later ++ rest) correlationId context event step)
    (h : (run mode first).Due k correlationId context event step) :
    (run mode (first ++ later)).Due k correlationId context event step := by
  induction later using List.reverseRecOn generalizing rest with
  | nil => simpa using h
  | append_singleton later move ih =>
      have hbefore : (run mode (first ++ later)).Due k correlationId context event step := by
        exact ih (move :: rest) (by simpa using hgives)
      rw [← List.append_assoc, run_snoc]
      rcases (run mode (first ++ later)).step_effect move with hsame | heffect
      · rwa [hsame]
      refine heffect.due (run_sound mode _) ?_ hbefore
      rintro renderer stamp w steps rfl hw hcomes hsteps
      exact hgives (first ++ later) k renderer stamp rest w steps (by simp) hw hcomes hsteps

end

/-- No join is lost. In a run without expiry, whatever the order of its moves, let an action be the
last that finished of those that a step depends on, and let the step listen to its result and give an
action for it. When nothing is left to be done about the run, the step has a stored action in it. -/
theorem no_lost_join (mode : DependencyMode) (moves : List Move)
    (hstay : ∀ move ∈ moves, move.isExpiry = false) (d : Action) (step : Step) (uuid : Uuid)
    (flow : FlowDefinition) (event : Event) (huuid : d.flowUuid = some uuid)
    (hflow : (run mode moves).flows.getByUuid? uuid = some flow) (hstep : step ∈ flow.steps)
    (hlast : LastOf mode moves step d) (hresult : d.result = some event)
    (hlistens : step.listensTo event = true)
    (hgives : Gives mode moves d.correlationId d.context event step)
    (hsettled : (run mode moves).Settled d.correlationId) :
    ∃ id a, (run mode moves).actions.get? id = some a ∧ a.correlationId = d.correlationId ∧
      a.stepId = step.id := by
  have hs := run_sound mode moves
  have hd := hs.booked.recorded _ _ hlast.stored
  obtain ⟨k, hk⟩ :=
    hsettled.dispatched (run_fair mode moves) (run_posted mode moves) hd hlast.finished
  obtain ⟨before, ids, after, rfl, htask, hload⟩ := exists_loaded hk
  -- The run was found after the completion, so the completed action was stored as it is.
  have hbefore := run_sound mode before
  obtain ⟨hrecorded, -⟩ := hbefore.tasks k _ htask
  have hstored : (run mode before).actions.get? d.id = some d :=
    stored_of_finished (fun move hmove => hstay move (List.mem_append_left _ hmove)) hrecorded
      hlast.finished
  have hresume : Dispatch.resume (run mode before).flows (run mode before).actions d =
      some ⟨FlowInstance.resume flow d.correlationId d.context
        ((run mode before).actions.findCorrelated d.correlationId), event⟩ := by
    simp [Dispatch.resume, hresult, huuid, getByUuid?_of_recorded hrecorded huuid hflow]
  have hlisting := (run mode before).actions.isListing_findCorrelated d.correlationId
  have hfinished : ∀ dep ∈ step.dependsOn, (FlowInstance.resume flow d.correlationId d.context
      ((run mode before).actions.findCorrelated d.correlationId)).stepFinished dep = true :=
    fun _ hdep => hlast.stepFinished hstay hstored flow hlisting hdep
  have hdue := due_loaded hbefore hresume hstep hlistens (DependencyMode.satisfied_of_all hfinished)
    k ids
  rw [← hload, ← run_snoc] at hdue
  have hend := due_later _ after [] (by simpa using hgives) hdue
  rw [List.append_assoc, List.singleton_append] at hend
  rcases hend with ⟨a, ha, hrun, hid⟩ | ⟨w, hw, hcomes⟩
  · obtain ⟨b, hb⟩ := run_complete hstay a ha
    obtain ⟨hbrun, hbstep⟩ := Action.run_eq_of_core (hs.booked.latest _ _ _ hb ha rfl).core
    exact ⟨a.id, b, hb, hbrun ▸ hrun, hbstep ▸ hid⟩
  · have hmem := hcomes.before
    rw [hsettled.walked _ w hw hcomes.run] at hmem
    cases hmem

/-! ## The dessert of a dinner -/

/-- A step with one stored action has it under one identifier. -/
theorem existsUnique_of_single {actions : ActionStore} (hkeyed : actions.Keyed)
    {correlationId stepId id : String}
    (h : (actions.values.filter fun a =>
      a.correlationId == correlationId && a.stepId == stepId).map (·.id) = [id]) :
    ∃! id, ∃ a, actions.get? id = some a ∧ a.correlationId = correlationId ∧
      a.stepId = stepId := by
  have hiff : ∀ key, (∃ a, actions.get? key = some a ∧ a.correlationId = correlationId ∧
      a.stepId = stepId) ↔ key = id := by
    intro key
    rw [← List.mem_singleton, ← h]
    simp only [List.mem_map, List.mem_filter, Bool.and_eq_true, beq_iff_eq]
    constructor
    · rintro ⟨a, ha, hsame⟩
      exact ⟨a, ⟨Dict.mem_values.2 ⟨key, ha⟩, hsame⟩, hkeyed key a ha⟩
    · rintro ⟨a, ⟨ha, hsame⟩, rfl⟩
      exact ⟨a, hkeyed.get? ha, hsame⟩
  exact ⟨id, (hiff id).2 rfl, fun key hkey => (hiff key).1 hkey⟩

namespace Dinner

def lastCourse : Step := course "dessert" ["soup", "roast"] "kitchen" "ready"

/-- The moves up to the answer about the soup. -/
def soupReady : List Move :=
  (ordered ++ [.beginTake kitchen none]) ++ .beginTake kitchen none :: hurried.take 10

theorem desserts_eq : desserts = soupReady ++ hurried.drop 10 := by
  rw [soupReady, List.append_assoc, List.cons_append, List.take_append_drop]
  rfl

/-- Then the roast is still being made. -/
theorem soup_first :
    (((run .all soupReady).actions.get? (stamp 1).id).map fun a =>
      (a.correlationId, a.stepId, a.hasFinished)) = some ("table", "soup", true) ∧
    ((run .all soupReady).actions.get? (stamp 2).id).map Action.hasFinished = some false := by
  rw [soupReady, run_beginTake (by decide +kernel), run_beginTake (by decide +kernel)]
  decide +kernel

theorem roast_made :
    (((run .all desserts).actions.get? (stamp 2).id).map fun d =>
      (d.id, d.correlationId, d.stepId, d.hasFinished)) =
        some ((stamp 2).id, "table", "roast", true) ∧
    (((run .all desserts).actions.get? (stamp 2).id).map fun d => (d.flowUuid, d.result)) =
      some (some ⟨0⟩, some (event "kitchen" "ready")) ∧
    ((run .all desserts).actions.get? (stamp 2).id).map (·.context) = some ∅ := by
  rw [desserts, run_beginTake (by decide +kernel), run_beginTake (by decide +kernel)]
  decide +kernel

theorem desserts_end : (run .all desserts).tasks.all Task.idle = true ∧
    (run .all desserts).flows.getByUuid? ⟨0⟩ = some { flow with uuid := some ⟨0⟩ } := by
  rw [desserts, run_beginTake (by decide +kernel), run_beginTake (by decide +kernel)]
  decide +kernel

theorem courses_single : ∀ course ∈ [("soup", stamp 1), ("roast", stamp 2)],
    ((run .all desserts).actions.values.filter fun a =>
      a.correlationId == "table" && a.stepId == course.1).map (·.id) = [course.2.id] := by
  rw [desserts, run_beginTake (by decide +kernel), run_beginTake (by decide +kernel)]
  decide +kernel

theorem roast_last {d : Action} (hd : (run .all desserts).actions.get? (stamp 2).id = some d)
    (hid : d.id = (stamp 2).id) (hrun : d.correlationId = "table") (hstep : d.stepId = "roast")
    (hfinished : d.hasFinished = true) : LastOf .all desserts lastCourse d := by
  have hdepends : lastCourse.dependsOn = ["soup", "roast"] := rfl
  obtain ⟨hsoup, hroast⟩ := soup_first
  obtain ⟨a, ha, hsame⟩ := Option.map_eq_some_iff.1 hsoup
  simp only [Prod.mk.injEq] at hsame
  have hkeyed := (run_sound .all desserts).booked.keyed
  refine ⟨?_, hid ▸ hd, hfinished, ?_, soupReady, _, desserts_eq, ?_, ?_⟩
  · simp [hdepends, hstep]
  · rw [hrun, hdepends]
    intro dep hdep
    rcases List.mem_pair.1 hdep with rfl | rfl
    · exact existsUnique_of_single hkeyed (courses_single ("soup", stamp 1) (by decide))
    · exact existsUnique_of_single hkeyed (courses_single ("roast", stamp 2) (by decide))
  · rw [hid]
    intro heq
    simp [heq, hfinished] at hroast
  · rw [hrun, hdepends, hstep]
    intro dep hdep hne
    obtain rfl : dep = "soup" := (List.mem_pair.1 hdep).resolve_right hne
    exact ⟨_, a, ha, hsame⟩

theorem desserts_renderer : ∀ move ∈ desserts, ∀ i r stamp, move = .evaluate i r stamp →
    r = renderer := by
  simp [desserts, ordered, hurried]

theorem lastCourse_given (correlationId : String) :
    Gives .all desserts correlationId ∅ (event "kitchen" "ready") lastCourse := by
  intro before i r stamp after w rest hmoves _ _ _
  obtain rfl := desserts_renderer (.evaluate i r stamp) (by simp [hmoves]) i r stamp rfl
  exact ⟨_, rfl⟩

end Dinner

open Dinner in
theorem dessert_not_lost :
    (run .all desserts).Settled "table" ∧ ∃ d, LastOf .all desserts lastCourse d ∧
      ∃ id a, (run .all desserts).actions.get? id = some a ∧ a.correlationId = "table" ∧
        a.stepId = "dessert" := by
  obtain ⟨hidle, hflow⟩ := desserts_end
  have hsettled := settled_of_idle hidle "table"
  obtain ⟨hroast, hend, hcontext⟩ := roast_made
  obtain ⟨d, hd, hsame⟩ := Option.map_eq_some_iff.1 hroast
  simp only [hd, Option.map_some, Option.some.injEq, Prod.mk.injEq] at hsame hend hcontext
  obtain ⟨hid, hrun, hstep, hfinished⟩ := hsame
  have hlast := roast_last hd hid hrun hstep hfinished
  have hstored := no_lost_join .all desserts desserts_stay d lastCourse ⟨0⟩ _ _ hend.1 hflow
    (by decide) hlast hend.2 (by decide) (hcontext ▸ lastCourse_given d.correlationId)
    (hrun ▸ hsettled)
  rw [hrun] at hstored
  exact ⟨hsettled, d, hlast, hstored⟩

end Floor

end Orchestrator
