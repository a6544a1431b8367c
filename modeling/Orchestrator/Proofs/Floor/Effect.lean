import Orchestrator.Proofs.Broker.Attempt
import Orchestrator.Proofs.Dispatch
import Orchestrator.Proofs.Floor.Basic

/-!
What a move can do, once and for all. There is one rule for each way in which a move may end, with all
that is known then; a move that falls under no rule changes nothing. Facts about every task of the
floor are carried over a move by what the move does to the list of tasks: it advances one task, or it
lets new ones begin. Those that a dispatch lets begin are told by their place among the runs it finds.
-/

namespace Orchestrator

namespace Floor

theorem names_give (s : Floor) (i : Nat) (ids : List String) :
    (s.give i ids).names = s.names ++ ids := by
  simp [names, give, Function.comp_def]

theorem step_call_stored {s : Floor} {i : Nat} {w : Walk} {step : Step} {rest : List Step}
    {a : Action} {added : Action × ActionStore} (htask : s.tasks[i]? = some (.walk w))
    (hsteps : w.steps = step :: rest) (hdraft : w.draft = some a)
    (hadd : s.actions.add a = .ok added) :
    s.step (.call i) = s.accept i added.1 added.2 (.walk (w.stored step added.1)) := by
  simp only [Floor.step, call, htask, callWalk, hsteps, hdraft, hadd]

theorem step_call_refused {s : Floor} {i : Nat} {w : Walk} {step : Step} {rest : List Step}
    {a : Action} {e : Error} (htask : s.tasks[i]? = some (.walk w))
    (hsteps : w.steps = step :: rest) (hdraft : w.draft = some a)
    (hadd : s.actions.add a = .error e) :
    s.step (.call i) = s.put i (.walk w.skip) := by
  simp only [Floor.step, call, htask, callWalk, hsteps, hdraft, hadd]

/-- The floor after a dispatch has found its runs, which set out. -/
def loaded (s : Floor) (i : Nat) (ids : List String) (report : Report) : Floor :=
  ((s.give i ids).put i (.dispatch report true)).begin
    ((s.found ids report).map fun a => .walk (.setOut s.mode a s.journal.length))

/-- The ways in which a move may end. -/
inductive Effect (s : Floor) : Move → Floor → Prop where
  | registered {flow : FlowDefinition} {uuid : Uuid}
      (hvalid : flow.validate = .ok ()) (hfresh : ∀ f ∈ s.flows.history, f.uuid ≠ some uuid) :
      Effect s (.register flow uuid)
        { s with flows := (s.flows.add { flow with uuid := none } uuid).2 }
  | unregistered {name : String} :
      Effect s (.unregister name) { s with flows := (s.flows.remove name).2 }
  | published {event : Event} :
      Effect s (.publish event) (s.begin [.dispatch (.published event) false])
  | takeBegun {pack : Pack} {name : Option String} :
      Effect s (.beginTake pack name)
        (s.begin [.take pack (Broker.candidates s.actions pack name) none])
  | completeBegun {pack : Pack} {id : String} {result : Event} {a : Action}
      (hstored : s.actions.get? id = some a) :
      Effect s (.beginComplete pack id result) (s.begin [.complete pack a result none])
  | completeMissed {pack : Pack} {id : String} {result : Event}
      (hmissing : s.actions.get? id = none) :
      Effect s (.beginComplete pack id result)
        (s.begin [.completed pack id none (.error (.actionNotFound id)) false])
  | loaded {i : Nat} {ids : List String} {report : Report}
      (htask : s.tasks[i]? = some (.dispatch report false))
      (hdemand : ids.length = s.demand report) (hnodup : ids.Nodup)
      (hfresh : ∀ id ∈ ids, id ∉ s.names) :
      Effect s (.load i ids)
        (((s.give i ids).put i (.dispatch report true)).begin
          ((s.found ids report).map fun a => .walk (.setOut s.mode a s.journal.length)))
  | drafted {i : Nat} {renderer : Renderer} {stamp : Stamp} {w : Walk} {step : Step}
      {rest : List Step} {a : Action}
      (htask : s.tasks[i]? = some (.walk w)) (hsteps : w.steps = step :: rest)
      (hnone : w.draft = none)
      (heval : step.evaluate renderer w.event w.run.context stamp = .ok (some a))
      (hfresh : stamp.id ∉ s.names) :
      Effect s (.evaluate i renderer stamp)
        ((s.give i [stamp.id]).put i (.walk { w with draft := some (w.run.adopt step a) }))
  | passed {i : Nat} {renderer : Renderer} {stamp : Stamp} {w : Walk} {step : Step}
      {rest : List Step} (htask : s.tasks[i]? = some (.walk w)) (hsteps : w.steps = step :: rest)
      (hnone : w.draft = none)
      (hnothing : ∀ a, step.evaluate renderer w.event w.run.context stamp ≠ .ok (some a)) :
      Effect s (.evaluate i renderer stamp) (s.put i (.walk w.skip))
  | takeTimed {i : Nat} {now : Timestamp} {pack : Pack} {a : Action} {rest : List Action}
      (htask : s.tasks[i]? = some (.take pack (a :: rest) none)) :
      Effect s (.read i now) (s.put i (.take pack (a :: rest) (some now)))
  | completeTimed {i : Nat} {now : Timestamp} {pack : Pack} {a : Action} {result : Event}
      (htask : s.tasks[i]? = some (.complete pack a result none)) :
      Effect s (.read i now) (s.put i (.complete pack a result (some now)))
  | added {i : Nat} {w : Walk} {step : Step} {rest : List Step} {a stored : Action}
      {actions : ActionStore}
      (htask : s.tasks[i]? = some (.walk w)) (hsteps : w.steps = step :: rest)
      (hdraft : w.draft = some a) (hadd : s.actions.add a = .ok (stored, actions)) :
      Effect s (.call i) (s.accept i stored actions (.walk (w.stored step stored)))
  | addRefused {i : Nat} {w : Walk} {step : Step} {rest : List Step} {a : Action} {e : Error}
      (htask : s.tasks[i]? = some (.walk w)) (hsteps : w.steps = step :: rest)
      (hdraft : w.draft = some a) (hadd : s.actions.add a = .error e) :
      Effect s (.call i) (s.put i (.walk w.skip))
  | queueEmpty {i : Nat} {pack : Pack} {reading : Option Timestamp}
      (htask : s.tasks[i]? = some (.take pack [] reading)) :
      Effect s (.call i) (s.put i (.taken pack (.ok none)))
  | claimed {i : Nat} {pack : Pack} {a taken : Action} {rest : List Action} {now : Timestamp}
      {actions : ActionStore}
      (htask : s.tasks[i]? = some (.take pack (a :: rest) (some now)))
      (hclaim : Broker.claim s.actions a now = .ok (taken, actions)) :
      Effect s (.call i) (s.accept i taken actions (.taken pack (.ok (some taken))))
  | claimLost {i : Nat} {pack : Pack} {a : Action} {rest : List Action} {now : Timestamp}
      {id : String} {source target : ActionState}
      (htask : s.tasks[i]? = some (.take pack (a :: rest) (some now)))
      (hclaim : Broker.claim s.actions a now = .error (.illegalTransition id source target)) :
      Effect s (.call i) (s.put i (.take pack rest none))
  | claimFailed {i : Nat} {pack : Pack} {a : Action} {rest : List Action} {now : Timestamp}
      {e : Error}
      (htask : s.tasks[i]? = some (.take pack (a :: rest) (some now)))
      (hclaim : Broker.claim s.actions a now = .error e) :
      Effect s (.call i) (s.put i (.taken pack (.error e)))
  | settled {i : Nat} {pack : Pack} {a completed : Action} {result : Event} {now : Timestamp}
      {actions : ActionStore}
      (htask : s.tasks[i]? = some (.complete pack a result (some now)))
      (hsettle : Broker.settle s.actions pack a result now = .ok (some completed, actions)) :
      Effect s (.call i) (s.accept i completed actions
        (.completed pack a.id (some a) (.ok (some completed)) false))
  | settleIgnored {i : Nat} {pack : Pack} {a : Action} {result : Event} {now : Timestamp}
      {actions : ActionStore}
      (htask : s.tasks[i]? = some (.complete pack a result (some now)))
      (hsettle : Broker.settle s.actions pack a result now = .ok (none, actions)) :
      Effect s (.call i) (s.put i (.completed pack a.id (some a) (.ok none) false))
  | settleRefused {i : Nat} {pack : Pack} {a : Action} {result : Event} {now : Timestamp}
      {e : Error}
      (htask : s.tasks[i]? = some (.complete pack a result (some now)))
      (hsettle : Broker.settle s.actions pack a result now = .error e) :
      Effect s (.call i) (s.put i (.completed pack a.id (some a) (.error e) false))
  | dispatched {i : Nat} {pack : Pack} {id : String} {read : Option Action} {a : Action}
      (htask : s.tasks[i]? = some (.completed pack id read (.ok (some a)) false)) :
      Effect s (.call i) ((s.put i (.completed pack id read (.ok (some a)) true)).begin
        [.dispatch (.completed a) false])
  | answered {i : Nat} {pack : Pack} {id : String} {read : Option Action}
      {outcome : Except Error (Option Action)}
      (htask : s.tasks[i]? = some (.completed pack id read outcome false))
      (hnothing : ∀ a, outcome ≠ .ok (some a)) :
      Effect s (.call i) (s.put i (.completed pack id read outcome true))
  | expired {now : Timestamp} {age : Int} {limit : Timestamp} :
      Effect s (.expire now age)
        { s with actions := s.actions.filter fun _ a => limit ≤ a.state.time }

theorem areFresh_iff {s : Floor} {ids : List String} :
    s.areFresh ids = true ↔ ids.Nodup ∧ ∀ id ∈ ids, id ∉ s.names := by
  simp [areFresh]

theorem register_effect (s : Floor) (flow : FlowDefinition) (uuid : Uuid) :
    s.register flow uuid = s ∨ s.Effect (.register flow uuid) (s.register flow uuid) := by
  unfold register
  cases hvalid : flow.validate with
  | error e => exact .inl rfl
  | ok _ =>
      by_cases hknown : (s.flows.history.any fun f => f.uuid == some uuid) = true
      · exact .inl (if_pos hknown)
      · refine .inr ?_
        simp only [hknown, Bool.false_eq_true, if_false]
        refine .registered hvalid fun f hf heq => hknown ?_
        exact List.any_eq_true.2 ⟨f, hf, by simp [heq]⟩

theorem beginComplete_effect (s : Floor) (pack : Pack) (id : String) (result : Event) :
    s.Effect (.beginComplete pack id result) (s.beginComplete pack id result) := by
  unfold beginComplete Broker.find
  cases hstored : s.actions.get? id with
  | some a => exact .completeBegun hstored
  | none => exact .completeMissed hstored

theorem load_effect (s : Floor) (i : Nat) (ids : List String) :
    s.load i ids = s ∨ s.Effect (.load i ids) (s.load i ids) := by
  unfold load
  split
  · next report htask =>
    split
    · next hguard =>
      rw [Bool.and_eq_true, decide_eq_true_iff, areFresh_iff] at hguard
      exact .inr (.loaded htask hguard.1 hguard.2.1 hguard.2.2)
    · exact .inl rfl
  · exact .inl rfl

theorem evaluate_effect (s : Floor) (i : Nat) (renderer : Renderer) (stamp : Stamp) :
    s.evaluate i renderer stamp = s ∨
      s.Effect (.evaluate i renderer stamp) (s.evaluate i renderer stamp) := by
  unfold evaluate
  split
  · next w htask =>
    split
    · next step rest hsteps hnone =>
      split
      · next a heval =>
        split
        · next hfresh =>
          have hfree : stamp.id ∉ s.names := (areFresh_iff.1 hfresh).2 _ (by simp)
          exact .inr (.drafted htask hsteps hnone heval hfree)
        · exact .inl rfl
      · next hnothing => exact .inr (.passed htask hsteps hnone hnothing)
    · exact .inl rfl
  · exact .inl rfl

theorem read_effect (s : Floor) (i : Nat) (now : Timestamp) :
    s.read i now = s ∨ s.Effect (.read i now) (s.read i now) := by
  unfold read
  split
  · next htask => exact .inr (.takeTimed htask)
  · next htask => exact .inr (.completeTimed htask)
  · exact .inl rfl

theorem callWalk_effect {s : Floor} {i : Nat} {w : Walk} (htask : s.tasks[i]? = some (.walk w)) :
    s.callWalk i w = s ∨ s.Effect (.call i) (s.callWalk i w) := by
  unfold callWalk
  split
  · next step rest a hsteps hdraft =>
    split
    · next stored actions hadd => exact .inr (.added htask hsteps hdraft hadd)
    · next e hadd => exact .inr (.addRefused htask hsteps hdraft hadd)
  · exact .inl rfl

theorem callTake_effect {s : Floor} {i : Nat} {pack : Pack} {queue : List Action}
    {reading : Option Timestamp} (htask : s.tasks[i]? = some (.take pack queue reading)) :
    s.callTake i pack queue reading = s ∨
      s.Effect (.call i) (s.callTake i pack queue reading) := by
  unfold callTake
  split
  · exact .inr (.queueEmpty htask)
  · split
    · next taken actions hclaim => exact .inr (.claimed htask hclaim)
    · next hclaim => exact .inr (.claimLost htask hclaim)
    · next e _ hclaim => exact .inr (.claimFailed htask hclaim)
  · exact .inl rfl

theorem callComplete_effect {s : Floor} {i : Nat} {pack : Pack} {a : Action} {result : Event}
    {now : Timestamp} (htask : s.tasks[i]? = some (.complete pack a result (some now))) :
    s.Effect (.call i) (s.callComplete i pack a result now) := by
  unfold callComplete
  split
  · next completed actions hsettle => exact .settled htask hsettle
  · next actions hsettle => exact .settleIgnored htask hsettle
  · next e hsettle => exact .settleRefused htask hsettle

theorem answer_effect {s : Floor} {i : Nat} {pack : Pack} {id : String} {read : Option Action}
    {outcome : Except Error (Option Action)}
    (htask : s.tasks[i]? = some (.completed pack id read outcome false)) :
    s.Effect (.call i) (s.answer i pack id read outcome) := by
  unfold answer
  split
  · exact .dispatched htask
  · next hnothing => exact .answered htask hnothing

theorem call_effect (s : Floor) (i : Nat) :
    s.call i = s ∨ s.Effect (.call i) (s.call i) := by
  unfold call
  split
  · next w htask => exact callWalk_effect htask
  · next pack queue reading htask => exact callTake_effect htask
  · next pack a result now htask => exact .inr (callComplete_effect htask)
  · next pack id read outcome htask => exact .inr (answer_effect htask)
  · exact .inl rfl

theorem expire_effect (s : Floor) (now : Timestamp) (age : Int) :
    s.expire now age = s ∨ s.Effect (.expire now age) (s.expire now age) := by
  unfold expire
  cases hexpire : s.actions.expire? now age with
  | none => exact .inl rfl
  | some result =>
      obtain ⟨n, kept⟩ := result
      obtain ⟨limit, rfl⟩ := ActionStore.expire?_eq_some hexpire
      exact .inr .expired

/-- A move ends under one of the rules, or changes nothing. -/
theorem step_effect (s : Floor) (move : Move) : s.step move = s ∨ s.Effect move (s.step move) := by
  cases move with
  | register flow uuid => exact register_effect s flow uuid
  | unregister name => exact .inr .unregistered
  | publish event => exact .inr .published
  | beginTake pack name => exact .inr .takeBegun
  | beginComplete pack id result => exact .inr (beginComplete_effect s pack id result)
  | load i ids => exact load_effect s i ids
  | evaluate i renderer stamp => exact evaluate_effect s i renderer stamp
  | read i now => exact read_effect s i now
  | call i => exact call_effect s i
  | expire now age => exact expire_effect s now age

/-! ## Runs that a dispatch finds -/

/-- The n-th run that an event starts has the n-th of the fresh identifiers. -/
theorem found_started {s : Floor} {ids : List String} {event : Event} {n : Nat} {a : Assignment}
    (hdemand : ids.length = s.demand (.published event))
    (hfound : (s.found ids (.published event))[n]? = some a) :
    ∃ flow id, s.flows.Knows flow ∧ ids[n]? = some id ∧
      a = ⟨FlowInstance.start flow id, event⟩ := by
  have hstart : (Dispatch.start s.flows event fun n => ids.getD n "")[n]? = some a := hfound
  obtain ⟨flow, hflow, hn, rfl⟩ := Dispatch.start_getElem? hstart
  have hlt : n < ids.length := hdemand ▸ hn
  refine ⟨flow, ids[n], FlowStore.knows_of_mem_findByEvent hflow, List.getElem?_eq_getElem hlt, ?_⟩
  rw [List.getD_eq_getElem?_getD, List.getElem?_eq_getElem hlt, Option.getD_some]

/-- A completed action moves one run at most, which knows the actions that are stored. -/
theorem found_resumed {s : Floor} {ids : List String} {c : Action} {n : Nat} {a : Assignment}
    (hfound : (s.found ids (.completed c))[n]? = some a) :
    n = 0 ∧ ∃ flow result, s.flows.Knows flow ∧
      a = ⟨FlowInstance.resume flow c.correlationId c.context
        (s.actions.findCorrelated c.correlationId), result⟩ := by
  have hresume : (Dispatch.resume s.flows s.actions c).toList[n]? = some a := hfound
  cases hsome : Dispatch.resume s.flows s.actions c with
  | none => simp [hsome] at hresume
  | some d =>
      rw [hsome, Option.toList_some, List.getElem?_singleton] at hresume
      obtain ⟨hn, hd⟩ := Option.ite_none_right_eq_some.1 hresume
      obtain rfl := Option.some.inj hd
      obtain ⟨result, flow, -, hflow, rfl⟩ := Dispatch.resume_eq_some hsome
      exact ⟨hn, flow, result, hflow, rfl⟩

/-! ## Facts about every task -/

/-- Something holds of every task, by its place. -/
def Each (P : Nat → Task → Prop) (s : Floor) : Prop := ∀ i t, s.tasks[i]? = some t → P i t

section Each

variable {P Q : Nat → Task → Prop} {s : Floor} {i : Nat} {t : Task}

theorem each_empty (mode : DependencyMode) (P : Nat → Task → Prop) : (empty mode).Each P := by
  intro i t h
  simp [empty] at h

theorem Each.imp (h : s.Each P) (hPQ : ∀ k t, P k t → Q k t) : s.Each Q :=
  fun k t hk => hPQ k t (h k t hk)

theorem Each.begin {tasks : List Task} (h : s.Each P) (htasks : ∀ t ∈ tasks, ∀ k, P k t) :
    (s.begin tasks).Each P := by
  intro k t hk
  rw [show (s.begin tasks).tasks = s.tasks ++ tasks from rfl, List.getElem?_append] at hk
  split at hk
  · exact h k t hk
  · exact htasks t (List.mem_of_getElem? hk) k

theorem each_put (hothers : ∀ k t, k ≠ i → s.tasks[k]? = some t → P k t) (ht : P i t) :
    (s.put i t).Each P := by
  intro k u hk
  rw [show (s.put i t).tasks = s.tasks.set i t from rfl, List.getElem?_set] at hk
  split at hk
  · next heq =>
    split at hk
    · simp only [Option.some.injEq] at hk
      exact heq ▸ hk ▸ ht
    · simp at hk
  · next hne => exact hothers k u (fun h => hne h.symm) hk

theorem Each.put (h : s.Each P) (ht : P i t) : (s.put i t).Each P :=
  each_put (fun k u _ hk => h k u hk) ht

theorem each_accept {a : Action} {actions : ActionStore}
    (hothers : ∀ k t, k ≠ i → s.tasks[k]? = some t → P k t) (ht : P i t) :
    (s.accept i a actions t).Each P :=
  each_put (s := s) hothers ht

end Each

end Floor

end Orchestrator
