import Orchestrator.Proofs.Floor.Join

/-!
Where the context of an action comes from. A walk evaluates its steps in the context that its run was
found with, and never in what other steps of the run have made of it. That context is empty if an
event starts the run, and that of the completed action if a result moves it on. So what an action has
in its context goes down to all actions that derive from it, until a step sets it anew.
-/

namespace Orchestrator

/-- An action has the context that a move has widened for it. -/
def Action.Widened (moves : List Move) (step : Step) (parent : Context) (a : Action) : Prop :=
  ∃ i renderer stamp, Move.evaluate i renderer stamp ∈ moves ∧ stamp.id = a.id ∧
    step.Widens renderer a.trigger parent a.context

/-- An action is one that a walk makes of a step of its run. -/
structure Walk.Makes (moves : List Move) (w : Walk) (a : Action) : Prop where
  run : a.correlationId = w.run.correlationId
  version : a.flowUuid = w.run.flow.uuid
  trigger : a.trigger = w.event
  widened : ∃ step ∈ w.run.flow.steps, a.stepId = step.id ∧ a.Widened moves step w.run.context

section

variable {moves : List Move} {w v : Walk} {a b : Action}

theorem Walk.Leads.makes_iff (h : w.Leads v) : v.Makes moves a ↔ w.Makes moves a := by
  constructor
  · rintro ⟨hrun, hversion, htrigger, hwidened⟩
    rw [h.flow, h.context] at hwidened
    exact ⟨hrun.trans h.run, h.flow ▸ hversion, htrigger.trans h.event, hwidened⟩
  · rintro ⟨hrun, hversion, htrigger, hwidened⟩
    rw [← h.flow, ← h.context] at hwidened
    exact ⟨hrun.trans h.run.symm, h.flow ▸ hversion, htrigger.trans h.event.symm, hwidened⟩

theorem Walk.Makes.of_core (h : w.Makes moves a) (hcore : a.core = b.core) : w.Makes moves b := by
  obtain ⟨hrun, hversion, htrigger, step, hstep, hid, i, renderer, stamp, hmove, hstamp, hwidens⟩ := h
  simp only [Action.core, Action.mk.injEq] at hcore
  obtain ⟨hown, -, -, -, -, -, -, hcorrelation, hflow, -, hsame, hcontext, hevent, -⟩ := hcore
  rw [hcontext, hevent] at hwidens
  exact ⟨hcorrelation ▸ hrun, hflow ▸ hversion, hevent ▸ htrigger, step, hstep, hsame ▸ hid,
    i, renderer, stamp, hmove, hstamp.trans hown, hwidens⟩

/-- What a move evaluates a step of a walk to is made by the walk. -/
theorem Walk.makes_adopt {step : Step} {i : Nat} {renderer : Renderer} {stamp : Stamp}
    (hmove : .evaluate i renderer stamp ∈ moves) (hstep : step ∈ w.run.flow.steps)
    (heval : step.evaluate renderer w.event w.run.context stamp = .ok (some a)) :
    w.Makes moves (w.run.adopt step a) := by
  have hwidens := Step.widens_of_evaluate heval
  obtain ⟨labels, input, context, rfl⟩ := Step.evaluate_eq_some heval
  exact ⟨rfl, rfl, rfl, step, hstep, rfl, i, renderer, stamp, hmove, rfl, hwidens⟩

end

def Task.Makes (moves : List Move) : Task → Prop
  | .walk w => ∀ a, w.draft = some a → w.Makes moves a
  | _ => True

namespace Floor

/-- Walks make their drafts, and every action was put into the store as new by the walk that has made
it. -/
structure Made (moves : List Move) (s : Floor) : Prop where
  rooted : s.Rooted
  drafts : s.Each fun _ t => t.Makes moves
  born : ∀ a, Recorded s.journal a → ∃ k w b, ⟨k, b⟩ ∈ s.journal ∧ b.core = a.core ∧
    b.state.value = .new ∧ s.tasks[k]? = some (.walk w) ∧ w.Makes moves b

section

variable {moves : List Move} {s s' : Floor} {move : Move}

theorem Effect.drafts (h : s.Made moves) (hmem : move ∈ moves) (heffect : s.Effect move s') :
    s'.Each fun _ t => t.Makes moves := by
  cases heffect with
  | registered | unregistered | expired => exact h.drafts
  | published | takeBegun | completeBegun | completeMissed =>
      exact h.drafts.begin (by simp [Task.Makes])
  | @loaded i ids =>
      refine (Each.put (s := s.give i ids) h.drafts ?_).begin fun t ht _ => ?_
      · trivial
      · obtain ⟨a, -, rfl⟩ := List.mem_map.1 ht
        intro b hb
        cases hb
  | @drafted i renderer stamp w step rest a htask hsteps hnone heval =>
      refine Each.put (s := s.give i [stamp.id]) h.drafts ?_
      intro b hb
      obtain rfl := Option.some.inj hb
      have hw : w.Rooted s := h.rooted.tasks i _ htask
      have hstep : step ∈ w.run.flow.steps := hw.steps.subset (hsteps ▸ List.mem_cons_self)
      exact (Walk.leads_draft w _).makes_iff.2 (Walk.makes_adopt hmem hstep heval)
  | passed | addRefused | added =>
      refine Each.put h.drafts ?_
      intro b hb
      cases hb
  | takeTimed | completeTimed | queueEmpty | claimed | claimLost | claimFailed | settled
  | settleIgnored | settleRefused | answered =>
      refine Each.put h.drafts ?_
      trivial
  | dispatched =>
      refine (Each.put h.drafts ?_).begin (by simp [Task.Makes])
      trivial

/-- A write puts in a draft, which is new, or it is about an action that was put in before. -/
theorem Effect.born (hs : s.Sound) (h : s.Made moves) (heffect : s.Effect move s') {a : Action}
    (ha : Recorded s'.journal a) : ∃ k w b, ⟨k, b⟩ ∈ s'.journal ∧ b.core = a.core ∧
      b.state.value = .new ∧ s'.tasks[k]? = some (.walk w) ∧ w.Makes moves b := by
  have hold : ∀ o, Recorded s.journal o → ∃ k w b, ⟨k, b⟩ ∈ s'.journal ∧ b.core = o.core ∧
      b.state.value = .new ∧ s'.tasks[k]? = some (.walk w) ∧ w.Makes moves b := by
    intro o ho
    obtain ⟨k, w, b, hb, hcore, hnew, hw, hmakes⟩ := h.born o ho
    obtain ⟨v, hv, hleads⟩ := heffect.walk_stays hw
    exact ⟨k, v, b, heffect.journal_grows.subset hb, hcore, hnew, hv, hleads.makes_iff.2 hmakes⟩
  rcases heffect.write_cases hs with
    ⟨i, c, t, -, hwrite, rfl⟩ | ⟨hjournal, -⟩ | ⟨-, hjournal, -⟩
  · rcases recorded_append_singleton.1 ha with hearlier | rfl
    · exact hold a hearlier
    rcases hwrite.cases_core with ⟨o, ho, hcore⟩ | ⟨w, _, _, htask, -, hdraft, hdrafted, -⟩
    · obtain ⟨k, w, b, hb, hsame, hrest⟩ := hold o (hs.booked.recorded _ _ ho)
      exact ⟨k, w, b, hb, hsame.trans hcore, hrest⟩
    · obtain ⟨v, hv, hleads⟩ := heffect.walk_stays htask
      have hmakes := h.drafts i _ htask a hdraft
      exact ⟨i, v, a, by simp [Floor.write, accept], rfl, hdrafted.new, hv,
        hleads.makes_iff.2 hmakes⟩
  · exact hold a (hjournal ▸ ha)
  · exact hold a (hjournal ▸ ha)

theorem run_made (mode : DependencyMode) (moves : List Move) : (run mode moves).Made moves :=
  run_invariant
    ⟨rooted_empty mode, each_empty mode _, fun a ha => absurd ha (not_recorded_nil a)⟩
    fun _ _ _ hmem hs h heffect =>
      ⟨heffect.rooted hs h.rooted, heffect.drafts h hmem, fun _ ha => heffect.born hs h ha⟩

end

/-! ## What an action comes from -/

/-- The step of an action, in the version of its flow. -/
def stepOf? (s : Floor) (a : Action) : Option Step := do
  let uuid ← a.flowUuid
  let flow ← s.flows.getByUuid? uuid
  flow.step? a.stepId

/-- An action was put into the store as new by a walk whose run was found for a report. -/
inductive MadeFor (mode : DependencyMode) (moves : List Move) (x : Action) (report : Report) :
    Prop where
  | intro {before after : List Move} {i k : Nat} {ids : List String} {w : Walk} {born : Action}
      (hmoves : moves = before ++ .load i ids :: after)
      (hdispatch : (run mode before).tasks[i]? = some (.dispatch report false))
      (hout : (run mode before).SetsOut (.load i ids) k w)
      (hborn : ⟨k, born⟩ ∈ (run mode moves).journal) (hnew : born.state.value = .new)
      (hid : born.id = x.id)

section

variable {mode : DependencyMode} {moves : List Move} {w : Walk} {x : Action}

theorem stepOf?_of_makes {s : Floor} (h : w.Makes moves x) (hrooted : s.Rooted)
    (hflow : w.run.flow ∈ s.flows.history) :
    ∃ step, s.stepOf? x = some step ∧ x.Widened moves step w.run.context := by
  obtain ⟨step, hstep, hid, hwidened⟩ := h.widened
  obtain ⟨uuid, huuid, hfound⟩ := hrooted.versions.found _ hflow
  have hnodup : w.run.flow.stepIds.Nodup := hrooted.stepIds_nodup (.inr hflow)
  refine ⟨step, ?_, hwidened⟩
  simp only [Floor.stepOf?, h.version, huuid, hfound, hid, Option.bind_eq_bind, Option.bind_some]
  exact FlowDefinition.step?_of_mem hnodup hstep

theorem exists_madeFor {id : String} (hx : (run mode moves).actions.get? id = some x) :
    ∃ report, MadeFor mode moves x report := by
  have hrecorded := (run_sound mode moves).booked.recorded id x hx
  obtain ⟨k, w, b, hb, hcore, hnew, hw, -⟩ := (run_made mode moves).born x hrecorded
  obtain ⟨before, move, after, v, hmoves, hout, -⟩ := exists_setsOut hw
  obtain ⟨i, ids, report, rfl, hdispatch⟩ : ∃ i ids report, move = .load i ids ∧
      (run mode before).tasks[i]? = some (.dispatch report false) := by
    cases hout with
    | found htask => exact ⟨_, _, _, rfl, htask⟩
  exact ⟨report, .intro hmoves hdispatch hout hb hnew (Action.id_eq_of_core hcore)⟩

/-- The walk that has put an action in as new has made it, as the walk was when it set out. -/
theorem SetsOut.makes {before after : List Move} {move : Move} {k : Nat} {born : Action}
    (hout : (run mode before).SetsOut move k w)
    (hborn : ⟨k, born⟩ ∈ (run mode (before ++ move :: after)).journal)
    (hnew : born.state.value = .new) (hid : born.id = x.id)
    (hx : (run mode (before ++ move :: after)).actions.get? x.id = some x) :
    w.Makes (before ++ move :: after) x ∧
      w.run.flow ∈ (run mode (before ++ move :: after)).flows.history := by
  have hs := run_sound mode (before ++ move :: after)
  have hmade := run_made mode (before ++ move :: after)
  obtain ⟨k', v, b, hb, hcore, hbnew, hv, hmakes⟩ := hmade.born x (hs.booked.recorded _ _ hx)
  -- An action is new in one version of it, so the walks are the same.
  have hsame : (⟨k, born⟩ : Entry) = ⟨k', b⟩ := by
    refine hs.booked.advances.eq_of_same_rank hborn hb ?_ ?_
    · exact hid.trans (Action.id_eq_of_core hcore).symm
    · rw [hnew, hbnew]
  obtain ⟨rfl, rfl⟩ := Entry.mk.inj hsame
  have hbegins := hout.begins
  rw [← run_snoc] at hbegins
  obtain ⟨u, hu, hleads⟩ := walk_later hbegins after
  rw [List.append_assoc, List.singleton_append] at hu
  obtain rfl : u = v := Task.walk.inj (Option.some.inj (hu.symm.trans hv))
  have hknown : u.run.flow ∈ (run mode (before ++ move :: after)).flows.history :=
    (hmade.rooted.tasks k _ hv : u.Rooted _).known
  exact ⟨(hleads.makes_iff.1 hmakes).of_core hcore, hleads.flow ▸ hknown⟩

/-- An event is dispatched because it was published. -/
theorem published_of_dispatch {i : Nat} {event : Event} {done : Bool}
    (h : (run mode moves).tasks[i]? = some (.dispatch (.published event) done)) :
    .publish event ∈ moves := by
  suffices (run mode moves).Each fun _ t =>
      ∀ event done, t = .dispatch (.published event) done → .publish event ∈ moves from
    this i _ h event done rfl
  refine run_invariant (each_empty mode _) fun s s' move hmem _ h heffect => ?_
  cases heffect with
  | registered | unregistered | expired => exact h
  | @published event =>
      refine h.begin fun t ht _ event' done heq => ?_
      rw [List.mem_singleton.1 ht] at heq
      obtain ⟨⟨⟩, -⟩ := Task.dispatch.inj heq
      exact hmem
  | takeBegun | completeBegun | completeMissed => exact h.begin (by simp)
  | @loaded i ids report htask =>
      refine (Each.put (s := s.give i ids) h ?_).begin (by simp)
      intro event done heq
      obtain ⟨rfl, -⟩ := Task.dispatch.inj heq
      exact h i _ htask event false rfl
  | drafted | added | claimed | settled => exact Each.put h (by simp)
  | dispatched => exact (h.put (by simp)).begin (by simp)
  | passed | addRefused | takeTimed | completeTimed | queueEmpty | claimLost | claimFailed
  | settleIgnored | settleRefused | answered => exact h.put (by simp)

/-- A run is moved on by the result of the action that was completed. -/
theorem result_of_found {s : Floor} {ids : List String} {c : Action} {n : Nat} {a : Assignment}
    (hfound : (s.found ids (.completed c))[n]? = some a) : c.result = some a.event := by
  have hmem : a ∈ (Dispatch.resume s.flows s.actions c).toList := List.mem_of_getElem? hfound
  obtain ⟨result, flow, hresult, -, rfl⟩ := Dispatch.resume_eq_some (Option.mem_toList.1 hmem)
  exact hresult

end

/-! ## Inheritance -/

/-- An action began a run, for an event that was published. -/
structure Begins (mode : DependencyMode) (moves : List Move) (event : Event) (step : Step)
    (x : Action) : Prop where
  published : .publish event ∈ moves
  trigger : x.trigger = event
  /-- The run was found for the event, under an identifier that had not been given out. -/
  fresh : ∃ before i ids after, moves = before ++ .load i ids :: after ∧
    (run mode before).tasks[i]? = some (.dispatch (.published event) false) ∧
    x.correlationId ∈ ids ∧ x.correlationId ∉ (run mode before).names
  widened : x.Widened moves step ∅
  keys : ∀ key, x.context.contains key = step.context.contains key

/-- An action goes on where another one of its run has finished. -/
structure Continues (mode : DependencyMode) (moves : List Move) (a : Action) (step : Step)
    (x : Action) : Prop where
  stored : (run mode moves).actions.get? a.id = some a
  finished : a.hasFinished = true
  run : x.correlationId = a.correlationId
  result : a.result = some x.trigger
  widened : x.Widened moves step a.context

/-- What an action that is made for a report has of it. -/
def Inherits (mode : DependencyMode) (moves : List Move) (step : Step) (x : Action) :
    Report → Prop
  | .published event => Begins mode moves event step x
  | .completed a => Continues mode moves a step x

/-- An action derives from another one by the steps of a path. -/
inductive Derives (mode : DependencyMode) (moves : List Move) (a : Action) :
    List Step → Action → Prop where
  | here : Derives mode moves a [] a
  | next {path : List Step} {b x : Action} {step : Step} (hb : Derives mode moves a path b)
      (hmade : MadeFor mode moves x (.completed b))
      (hstored : (run mode moves).actions.get? x.id = some x)
      (hstep : (run mode moves).stepOf? x = some step) : Derives mode moves a (path ++ [step]) x

section

variable {mode : DependencyMode} {moves : List Move} {x : Action}

theorem keys_of_widened {step : Step} (h : x.Widened moves step ∅) (key : String) :
    x.context.contains key = step.context.contains key := by
  obtain ⟨_, _, _, -, -, hwidens⟩ := h
  have hnone : (∅ : Context).contains key = false := rfl
  rw [hwidens.contains, hnone, Bool.or_false]

theorem MadeFor.inherits (hstay : ∀ move ∈ moves, move.isExpiry = false) {report : Report}
    (hx : (run mode moves).actions.get? x.id = some x) (h : MadeFor mode moves x report) :
    ∃ step, (run mode moves).stepOf? x = some step ∧ Inherits mode moves step x report := by
  obtain @⟨before, after, i, k, ids, w, born, rfl, hdispatch, hout, hborn, hnew, hid⟩ := h
  obtain ⟨hmakes, hflow⟩ := hout.makes hborn hnew hid hx
  obtain ⟨step, hstep, hwidened⟩ := stepOf?_of_makes hmakes (run_rooted mode _) hflow
  refine ⟨step, hstep, ?_⟩
  obtain @⟨_, n, _, _, a, htask, hdemand, -, hfresh, hfound⟩ := hout
  obtain ⟨rfl, -⟩ := Task.dispatch.inj (Option.some.inj (hdispatch.symm.trans htask))
  cases report with
  | published event =>
      obtain ⟨flow, id, -, hnth, rfl⟩ := found_started hdemand hfound
      have hmem : x.correlationId ∈ ids := hmakes.run ▸ List.mem_of_getElem? hnth
      exact {
        published := List.mem_append_left _ (published_of_dispatch hdispatch)
        trigger := hmakes.trigger
        fresh := ⟨before, i, ids, after, rfl, hdispatch, hmem, hfresh _ hmem⟩
        widened := hwidened
        keys := keys_of_widened hwidened }
  | completed c =>
      obtain ⟨hc, hfinished⟩ := (run_sound mode before).tasks i _ hdispatch
      have hresult := result_of_found hfound
      obtain ⟨-, flow, result, -, rfl⟩ := found_resumed hfound
      exact {
        stored := stored_of_finished hstay (hc.later (run_journal_grows mode before _)) hfinished
        finished := hfinished
        run := hmakes.run
        result := hresult.trans (congrArg some hmakes.trigger.symm)
        widened := hwidened }

/-- What is in a context goes down along a path, and only the steps of the path change it. -/
theorem Derives.inherits (hstay : ∀ move ∈ moves, move.isExpiry = false) {a : Action}
    {path : List Step} (h : Derives mode moves a path x) {key value : String}
    (hkey : a.context.get? key = some value) :
    x.context.contains key = true ∧
      ((∀ step ∈ path, step.context.contains key = false) →
        x.context.get? key = some value) := by
  induction h with
  | here => exact ⟨Dict.contains_iff.2 ⟨value, hkey⟩, fun _ => hkey⟩
  | @next path b x step hb hmade hstored hstep ih =>
      obtain ⟨hhas, hsame⟩ := ih
      obtain ⟨step', hstep', hcontinues⟩ := hmade.inherits hstay hstored
      obtain rfl := Option.some.inj (hstep.symm.trans hstep')
      obtain ⟨_, _, _, -, -, hwidens⟩ := Continues.widened hcontinues
      constructor
      · rw [hwidens.contains, hhas, Bool.or_true]
      · intro hnone
        have hfree := hnone step (by simp)
        rw [hwidens.kept key (Dict.contains_eq_false.1 hfree)]
        exact hsame fun earlier hearlier => hnone earlier (List.mem_append_left _ hearlier)

end

/-- In a run without expiry, whatever the order of its moves, every stored action was made for a report.
If this is an event, then the action began a run, and its context has the keys that its step sets. If
it is an action, then this one has finished and stands beside it in the run, its result made the step
match, and its context is what the step has widened. Hence what is in the context of an action is in
that of every action that derives from it, and is the same there unless a step on the path sets it. -/
theorem context_inherited (mode : DependencyMode) (moves : List Move)
    (hstay : ∀ move ∈ moves, move.isExpiry = false) :
    (∀ id x, (run mode moves).actions.get? id = some x →
      (∃ report, MadeFor mode moves x report) ∧
      ∀ report, MadeFor mode moves x report →
        ∃ step, (run mode moves).stepOf? x = some step ∧ Inherits mode moves step x report) ∧
    ∀ a path x, Derives mode moves a path x → ∀ key value, a.context.get? key = some value →
      x.context.contains key = true ∧
        ((∀ step ∈ path, step.context.contains key = false) →
          x.context.get? key = some value) := by
  constructor
  · intro id x hx
    obtain rfl := (run_sound mode moves).booked.keyed id x hx
    exact ⟨exists_madeFor hx, fun report hmade => hmade.inherits hstay hx⟩
  · intro a path x hderives key value hkey
    exact hderives.inherits hstay hkey

/-! ## A table that is carried along -/

namespace Dinner

/-- The soup notes the table, and the dessert that comes after it the sort. -/
def tableFlow : FlowDefinition :=
  ⟨"dinner", none, "", [
    { course "soup" [] "hall" "order" with context := Dict.ofList [("table", "four")] },
    { course "dessert" ["soup"] "kitchen" "ready" with context := Dict.ofList [("sort", "ice")] }]⟩

/-- The soup waits for the kitchen. -/
def noted : List Move :=
  [.register tableFlow ⟨0⟩, .publish (event "hall" "order"), .load 0 ["table"],
    .evaluate 1 renderer (stamp 1), .call 1]

/-- The kitchen is done with the soup, and the dessert is ordered. -/
def served : List Move :=
  [.read 2 ⟨3, 0⟩, .call 2, .beginComplete kitchen (stamp 1).id (event "kitchen" "ready"),
    .read 3 ⟨4, 0⟩, .call 3, .call 3, .load 4 [], .evaluate 5 renderer (stamp 2), .call 5]

def carried : List Move := noted ++ .beginTake kitchen none :: served

theorem carried_stay : ∀ move ∈ carried, move.isExpiry = false := by
  decide

/-- The dessert was ordered for a result, and does not note a table of its own. -/
theorem dessert_ordered :
    ((run .all carried).actions.get? (stamp 2).id).map (fun x => (x.trigger.name,
      ((run .all carried).stepOf? x).map fun step => step.context.contains "table")) =
        some ("ready", some false) := by
  rw [carried, run_beginTake (by decide +kernel)]
  decide +kernel

/-- What has finished has the table. -/
theorem soup_noted : ∀ a ∈ (run .all carried).actions.values, a.hasFinished = true →
    a.context.get? "table" = some "four" := by
  rw [carried, run_beginTake (by decide +kernel)]
  decide +kernel

end Dinner

open Dinner in
theorem table_carried_along :
    (∀ move ∈ carried, move.isExpiry = false) ∧
      ∃ a step x, (run .all carried).actions.get? (stamp 2).id = some x ∧
        Derives .all carried a [step] x ∧ x.context.get? "table" = some "four" := by
  refine ⟨carried_stay, ?_⟩
  obtain ⟨hmade, hdown⟩ := context_inherited .all carried carried_stay
  obtain ⟨x, hx, hordered⟩ := Option.map_eq_some_iff.1 dessert_ordered
  obtain ⟨htrigger, hnotes⟩ := Prod.mk.inj hordered
  obtain ⟨⟨report, hreport⟩, hinherits⟩ := hmade _ x hx
  obtain ⟨step, hstep, hstands⟩ := hinherits report hreport
  have hown := (run_sound .all carried).booked.keyed _ x hx
  cases report with
  | published event =>
      have hname : ∀ event, .publish event ∈ carried → event.name = "order" := by
        intro event hmem
        simp [carried, noted, served] at hmem
        rw [hmem]
        rfl
      have hpublished := Begins.published hstands
      rw [Begins.trigger hstands, hname event hpublished] at htrigger
      exact absurd htrigger (by decide)
  | completed a =>
      have hvalue := Dict.mem_values.2 ⟨_, Continues.stored hstands⟩
      have hnoted := soup_noted a hvalue (Continues.finished hstands)
      have hderives : Derives .all carried a [step] x := .next .here hreport (hown.symm ▸ hx) hstep
      rw [hstep, Option.map_some, Option.some.injEq] at hnotes
      refine ⟨a, step, x, hx, hderives, (hdown a _ x hderives _ _ hnoted).2 ?_⟩
      simpa using hnotes

end Floor

end Orchestrator
