import Mathlib.Data.List.Induction
import Mathlib.Data.List.Nodup
import Orchestrator.Proofs.Evaluation
import Orchestrator.Proofs.Floor.Effect
import Orchestrator.Proofs.Floor.Journal

/-!
What holds after every run, whatever the order of its moves: the journal accounts for the store, and
every copy of an action that a task holds is a version that the journal knows, or a draft of its own
that nobody else can store.
-/

namespace Orchestrator

/-- What is known of an action between its evaluation and its way into the store. -/
structure Drafted (journal : List Entry) (given : List (String × Nat)) (i : Nat) (w : Walk)
    (a : Action) : Prop where
  lived : a.WellLived
  new : a.state.value = .new
  /-- The identifier was given to this task, -/
  owned : (a.id, i) ∈ given
  /-- and no stored action has ever had it. -/
  unused : ∀ b, Floor.Recorded journal b → b.id ≠ a.id
  run : a.correlationId = w.run.correlationId
  step : ∃ step rest, w.steps = step :: rest ∧ a.stepId = step.id

namespace Drafted

variable {journal : List Entry} {given : List (String × Nat)} {i : Nat} {w : Walk} {a : Action}

theorem stepId (h : Drafted journal given i w a) {step : Step} {rest : List Step}
    (hsteps : w.steps = step :: rest) : a.stepId = step.id := by
  obtain ⟨step', rest', hsteps', hid⟩ := h.step
  obtain ⟨rfl, -⟩ := List.cons.inj (hsteps.symm.trans hsteps')
  exact hid

/-- The step of a draft is before the walk. -/
theorem mem_ids (h : Drafted journal given i w a) : a.stepId ∈ w.steps.map (·.id) := by
  obtain ⟨step, rest, hsteps, hid⟩ := h.step
  rw [hid, hsteps]
  exact List.mem_cons_self

end Drafted

namespace Task

open Floor (Recorded)

/-- What holds of the actions that a task knows. -/
def Sound (journal : List Entry) (given : List (String × Nat)) (i : Nat) : Task → Prop
  | .dispatch (.published _) _ => True
  | .dispatch (.completed a) _ => Recorded journal a ∧ a.state.value.isTerminal = true
  | .walk w => ∀ a, w.draft = some a → Drafted journal given i w a
  | .take pack queue _ => ∀ a ∈ queue, Recorded journal a ∧ a.state.value = .new ∧
      pack.serves a.packName a.packLabels = true
  | .taken _ outcome => ∀ a, outcome = .ok (some a) → ⟨i, a⟩ ∈ journal ∧ a.state.value = .pending
  | .complete _ a _ _ => Recorded journal a
  | .completed _ id read outcome _ =>
      (∀ a, read = some a → Recorded journal a ∧ a.id = id) ∧
      ∀ a, outcome = .ok (some a) →
        ⟨i, a⟩ ∈ journal ∧ a.state.value.isTerminal = true ∧ a.id = id

variable {journal : List Entry} {given : List (String × Nat)} {i : Nat} {t : Task}

theorem Sound.give (h : t.Sound journal given i) (more : List (String × Nat)) :
    t.Sound journal (given ++ more) i := by
  cases t with
  | walk w =>
      intro a ha
      have hd := h a ha
      exact { hd with owned := List.mem_append_left _ hd.owned }
  | dispatch report done => cases report <;> exact h
  | _ => exact h

/-- What another task writes into the store is no other's draft. -/
theorem Sound.write {k : Nat} {b : Action} (h : t.Sound journal given i) (hother : i ≠ k)
    (hdistinct : (given.map Prod.fst).Nodup)
    (hid : (∃ c, Recorded journal c ∧ c.id = b.id) ∨ (b.id, k) ∈ given) :
    t.Sound (journal ++ [⟨k, b⟩]) given i := by
  cases t with
  | dispatch report done =>
      cases report with
      | published event => trivial
      | completed a => exact ⟨h.1.append _, h.2⟩
  | walk w =>
      intro a ha
      have hd := h a ha
      refine { hd with unused := fun c hc => ?_ }
      rcases Floor.recorded_append_singleton.1 hc with hold | rfl
      · exact hd.unused c hold
      · intro heq
        rcases hid with ⟨d, hd', hdid⟩ | howned
        · exact hd.unused d hd' (hdid.trans heq)
        · -- An identifier is given to one task only.
          have hpair := List.inj_on_of_nodup_map hdistinct howned hd.owned heq
          exact hother (congrArg Prod.snd hpair).symm
  | take pack queue reading => exact fun a ha => ⟨(h a ha).1.append _, (h a ha).2⟩
  | taken pack outcome => exact fun a ha => ⟨List.mem_append_left _ (h a ha).1, (h a ha).2⟩
  | complete pack a r reading => exact Recorded.append h _
  | completed pack id read outcome answered =>
      exact ⟨fun a ha => ⟨(h.1 a ha).1.append _, (h.1 a ha).2⟩,
        fun a ha => ⟨List.mem_append_left _ (h.2 a ha).1, (h.2 a ha).2⟩⟩

end Task

namespace Floor

/-- What holds after every run. -/
structure Sound (s : Floor) : Prop where
  booked : Booked s.actions s.journal
  /-- No identifier is given out twice. -/
  distinct : s.names.Nodup
  named : ∀ a, Recorded s.journal a → a.id ∈ s.names
  tasks : s.Each (Task.Sound s.journal s.given)

theorem sound_empty (mode : DependencyMode) : (empty mode).Sound where
  booked := booked_empty
  distinct := List.nodup_nil
  named := fun a ha => absurd ha (not_recorded_nil a)
  tasks := each_empty mode _

namespace Sound

variable {s : Floor}

theorem begin (h : s.Sound) {tasks : List Task}
    (htasks : ∀ t ∈ tasks, ∀ k, t.Sound s.journal s.given k) : (s.begin tasks).Sound where
  booked := h.booked
  distinct := h.distinct
  named := h.named
  tasks := h.tasks.begin htasks

theorem put (h : s.Sound) {i : Nat} {t : Task} (ht : t.Sound s.journal s.given i) :
    (s.put i t).Sound where
  booked := h.booked
  distinct := h.distinct
  named := h.named
  tasks := h.tasks.put ht

theorem give (h : s.Sound) {ids : List String} (hnodup : ids.Nodup)
    (hfresh : ∀ id ∈ ids, id ∉ s.names) (i : Nat) : (s.give i ids).Sound where
  booked := h.booked
  distinct := by
    rw [names_give]
    exact List.nodup_append'.2 ⟨h.distinct, hnodup, fun id hold hnew => hfresh id hnew hold⟩
  named := by
    intro a ha
    rw [names_give]
    exact List.mem_append_left _ (h.named a ha)
  tasks := h.tasks.imp fun k t ht => ht.give _

/-- A write is kept if its action is known already, or is the draft of the task. -/
theorem accept (h : s.Sound) {i : Nat} {a : Action} {actions : ActionStore} {t : Task}
    (hbooked : Booked actions (s.journal ++ [⟨i, a⟩]))
    (hid : (∃ b, Recorded s.journal b ∧ b.id = a.id) ∨ (a.id, i) ∈ s.given)
    (ht : t.Sound (s.journal ++ [⟨i, a⟩]) s.given i) : (s.accept i a actions t).Sound where
  booked := hbooked
  distinct := h.distinct
  named := by
    intro b hb
    rcases recorded_append_singleton.1 hb with hold | rfl
    · exact h.named b hold
    · rcases hid with ⟨c, hc, hcb⟩ | howned
      · exact hcb ▸ h.named c hc
      · exact List.mem_map_of_mem (f := Prod.fst) howned
  tasks := each_accept (fun k u hk hu => (h.tasks k u hu).write hk h.distinct hid) ht

end Sound

/-- A walk that has no draft knows no action that is not stored. -/
theorem sound_walk {journal : List Entry} {given : List (String × Nat)} {i : Nat} {w : Walk}
    (hnone : w.draft = none) : (Task.walk w).Sound journal given i := by
  intro a ha
  simp [hnone] at ha

/-- An action that a step gives, as one of the run, is a draft. -/
theorem drafted_adopt {journal : List Entry} {given : List (String × Nat)} {i : Nat} {w : Walk}
    {step : Step} {rest : List Step} {renderer : Renderer} {stamp : Stamp} {a : Action}
    (hsteps : w.steps = step :: rest)
    (heval : step.evaluate renderer w.event w.run.context stamp = .ok (some a))
    (howned : (stamp.id, i) ∈ given) (hunused : ∀ b, Recorded journal b → b.id ≠ stamp.id) :
    Drafted journal given i { w with draft := some (w.run.adopt step a) } (w.run.adopt step a) := by
  obtain ⟨labels, input, context, rfl⟩ := Step.evaluate_eq_some heval
  exact {
    lived := .begin rfl rfl rfl rfl
    new := rfl
    owned := howned
    unused := hunused
    run := rfl
    step := ⟨step, rest, hsteps, rfl⟩ }

theorem Sound.added {s : Floor} (h : s.Sound) {i : Nat} {w : Walk} {a stored : Action}
    {actions : ActionStore} (htask : s.tasks[i]? = some (.walk w)) (hdraft : w.draft = some a)
    (hadd : s.actions.add a = .ok (stored, actions)) :
    stored = a ∧ actions = s.actions.insert a.id a := by
  obtain ⟨-, hstored, hactions⟩ := ActionStore.add_eq_ok.1 hadd
  rw [(h.tasks i _ htask a hdraft).lived.without_previous] at hstored
  exact ⟨hstored, hstored ▸ hactions⟩

/-- The store accepts the draft of a walk, since nobody else has its identifier. -/
theorem Sound.add_draft {s : Floor} (h : s.Sound) {i : Nat} {w : Walk} {a : Action}
    (htask : s.tasks[i]? = some (.walk w)) (hdraft : w.draft = some a) :
    s.actions.add a = .ok (a, s.actions.insert a.id a) := by
  have hdrafted := h.tasks i _ htask a hdraft
  have hunused : s.actions.get? a.id = none := by
    cases hget : s.actions.get? a.id with
    | none => rfl
    | some c =>
        have hc := h.booked.recorded _ _ hget
        exact absurd (h.booked.keyed _ _ hget) (hdrafted.unused c hc)
  exact ActionStore.add_eq_ok.2 ⟨hunused, hdrafted.lived.without_previous.symm, rfl⟩

/-- A run that is resumed knows the steps whose actions are stored, in whatever version. -/
theorem Sound.hasActionFor_stored {s : Floor} (h : s.Sound) {a b : Action} {flow : FlowDefinition}
    {correlationId : String} {context : Context} {actions : List Action}
    (hlisting : s.actions.IsListing correlationId actions) (ha : Recorded s.journal a)
    (hb : s.actions.get? a.id = some b) (hrun : a.correlationId = correlationId) :
    (FlowInstance.resume flow correlationId context actions).hasActionFor a.stepId = true := by
  obtain ⟨hbrun, hbstep⟩ := Action.run_eq_of_core (h.booked.latest _ _ _ hb ha rfl).core
  exact hlisting.hasActionFor_iff.2 ⟨a.id, b, hb, hbrun.symm.trans hrun, hbstep.symm⟩

/-- Who takes an action has written what the call returns. -/
theorem Sound.claimed {s : Floor} (h : s.Sound) {i : Nat} {pack : Pack} {a taken : Action}
    {rest : List Action} {now : Timestamp} {actions : ActionStore}
    (htask : s.tasks[i]? = some (.take pack (a :: rest) (some now)))
    (hclaim : Broker.claim s.actions a now = .ok (taken, actions)) :
    (s.accept i taken actions (.taken pack (.ok (some taken)))).Sound := by
  obtain ⟨ha, -, -⟩ := h.tasks _ _ htask a List.mem_cons_self
  obtain ⟨-, -, htaken, -⟩ := h.booked.claim ha hclaim
  refine h.accept (h.booked.claimed i ha hclaim) (.inl ⟨a, ha, by simp [htaken]⟩) ?_
  intro b hb
  simp only [Except.ok.injEq, Option.some.injEq] at hb
  exact ⟨by simp [hb], by simp [← hb, htaken]⟩

theorem Sound.settled {s : Floor} (h : s.Sound) {i : Nat} {pack : Pack} {a completed : Action}
    {result : Event} {now : Timestamp} {actions : ActionStore}
    (htask : s.tasks[i]? = some (.complete pack a result (some now)))
    (hsettle : Broker.settle s.actions pack a result now = .ok (some completed, actions)) :
    (s.accept i completed actions
      (.completed pack a.id (some a) (.ok (some completed)) false)).Sound := by
  have ha : Recorded s.journal a := h.tasks _ _ htask
  obtain ⟨-, -, hcompleted, -⟩ := h.booked.settle ha hsettle
  refine h.accept (h.booked.settled i ha hsettle) (.inl ⟨a, ha, by simp [hcompleted]⟩) ⟨?_, ?_⟩
  · intro b hb
    obtain rfl := Option.some.inj hb
    exact ⟨ha.append _, rfl⟩
  · intro b hb
    simp only [Except.ok.injEq, Option.some.injEq] at hb
    exact ⟨by simp [hb], by simp [← hb, hcompleted, Action.outcome_isTerminal],
      by simp [← hb, hcompleted]⟩

theorem Effect.sound {s s' : Floor} {move : Move} (h : s.Sound) (heffect : s.Effect move s') :
    s'.Sound := by
  cases heffect with
  | registered | unregistered => exact ⟨h.booked, h.distinct, h.named, h.tasks⟩
  | published => exact h.begin (by simp [Task.Sound])
  | @takeBegun pack name =>
      refine h.begin fun t ht k => ?_
      obtain rfl := List.mem_singleton.1 ht
      intro a ha
      obtain ⟨hstored, hnew, -⟩ := (Broker.mem_candidates h.booked.keyed).1 ha
      exact ⟨h.booked.recorded _ _ hstored, hnew, (List.mem_filter.1 ha).2⟩
  | completeBegun hstored =>
      refine h.begin fun t ht k => ?_
      obtain rfl := List.mem_singleton.1 ht
      exact h.booked.recorded _ _ hstored
  | completeMissed => exact h.begin (by simp [Task.Sound])
  | @loaded i ids report htask hdemand hnodup hfresh =>
      have hreport := (h.tasks i _ htask).give (ids.map fun id => (id, i))
      refine ((h.give hnodup hfresh i).put ?_).begin fun t ht k => ?_
      · cases report <;> exact hreport
      · obtain ⟨a, -, rfl⟩ := List.mem_map.1 ht
        exact sound_walk rfl
  | @drafted i renderer stamp w step rest a htask hsteps hnone heval hfresh =>
      refine (h.give (List.nodup_singleton _) (by simpa using hfresh) i).put fun b hb => ?_
      obtain rfl := Option.some.inj hb
      refine drafted_adopt hsteps heval (by simp [Floor.give]) fun c hc heq => ?_
      exact hfresh (heq ▸ h.named c hc)
  | passed => exact h.put (sound_walk rfl)
  | takeTimed htask =>
      refine h.put ?_
      exact (h.tasks _ _ htask :)
  | completeTimed htask =>
      refine h.put ?_
      exact (h.tasks _ _ htask :)
  | @added i w step rest a stored actions htask hsteps hdraft hadd =>
      have hd := h.tasks _ _ htask a hdraft
      obtain ⟨rfl, rfl⟩ := h.added htask hdraft hadd
      exact h.accept (h.booked.enter i hd.lived hd.unused) (.inr hd.owned) (sound_walk rfl)
  | addRefused => exact h.put (sound_walk rfl)
  | queueEmpty => exact h.put (by simp [Task.Sound])
  | claimed htask hclaim => exact h.claimed htask hclaim
  | claimLost htask =>
      exact h.put fun b hb => h.tasks _ _ htask b (List.mem_cons_of_mem _ hb)
  | claimFailed => exact h.put (by simp [Task.Sound])
  | settled htask hsettle => exact h.settled htask hsettle
  | settleIgnored htask =>
      refine h.put ⟨fun b hb => ?_, by simp⟩
      obtain rfl := Option.some.inj hb
      exact ⟨h.tasks _ _ htask, rfl⟩
  | settleRefused htask =>
      refine h.put ⟨fun b hb => ?_, by simp⟩
      obtain rfl := Option.some.inj hb
      exact ⟨h.tasks _ _ htask, rfl⟩
  | @dispatched i pack id read a htask =>
      have hknown := h.tasks _ _ htask
      obtain ⟨hentry, hterminal, -⟩ := hknown.2 a rfl
      refine (h.put ?_).begin fun t ht k => ?_
      · exact hknown
      · obtain rfl := List.mem_singleton.1 ht
        exact ⟨⟨i, hentry⟩, hterminal⟩
  | answered htask =>
      refine h.put ?_
      exact (h.tasks _ _ htask :)
  | @expired now age limit =>
      exact ⟨h.booked.filter fun _ a => limit ≤ a.state.time, h.distinct, h.named, h.tasks⟩

theorem step_sound {s : Floor} (h : s.Sound) (move : Move) : (s.step move).Sound := by
  rcases s.step_effect move with hstay | heffect
  · rwa [hstay]
  · exact heffect.sound h

theorem run_sound (mode : DependencyMode) (moves : List Move) : (run mode moves).Sound :=
  run_induction (sound_empty mode) (fun _ move h => step_sound h move) moves

/-- What holds at the beginning and is kept by every effect of the moves holds after the run. -/
theorem run_invariant {mode : DependencyMode} {P : Floor → Prop} {moves : List Move}
    (hempty : P (empty mode))
    (heffect : ∀ s s' move, move ∈ moves → s.Sound → P s → s.Effect move s' → P s') :
    P (run mode moves) := by
  induction moves using List.reverseRecOn with
  | nil => exact hempty
  | append_singleton moves move ih =>
      have hbefore : P (run mode moves) :=
        ih fun s s' m hm => heffect s s' m (List.mem_append_left _ hm)
      rw [run_snoc]
      rcases (run mode moves).step_effect move with hsame | hmove
      · rwa [hsame]
      · exact heffect _ _ move (by simp) (run_sound mode moves) hbefore hmove

/-! ## Writes -/

/-- What a task may write into the store: its draft, or a move of the stored action that it has read.
The task then looks as the last argument says. -/
inductive Write (s : Floor) (i : Nat) : Action → Task → Prop where
  | birth {w : Walk} {step : Step} {rest : List Step} {a : Action}
      (htask : s.tasks[i]? = some (.walk w)) (hsteps : w.steps = step :: rest)
      (hdraft : w.draft = some a) (hdrafted : Drafted s.journal s.given i w a) :
      Write s i a (.walk (w.stored step a))
  | take {pack : Pack} {a : Action} {rest : List Action} {now : Timestamp}
      (htask : s.tasks[i]? = some (.take pack (a :: rest) (some now)))
      (hstored : s.actions.get? a.id = some a) (hnew : a.state.value = .new) :
      Write s i (a.entered ⟨.pending, now⟩ a.history a.result)
        (.taken pack (.ok (some (a.entered ⟨.pending, now⟩ a.history a.result))))
  | complete {pack : Pack} {a : Action} {r : Event} {now : Timestamp}
      (htask : s.tasks[i]? = some (.complete pack a r (some now)))
      (hstored : s.actions.get? a.id = some a) (hpending : a.state.value = .pending) :
      Write s i (a.entered ⟨Action.outcome r, now⟩ a.history (some r))
        (.completed pack a.id (some a)
          (.ok (some (a.entered ⟨Action.outcome r, now⟩ a.history (some r)))) false)

/-- What is written belongs to a stored action, or it is the draft of a walk. -/
theorem Write.cases_core {s : Floor} {i : Nat} {a : Action} {t : Task} (h : s.Write i a t) :
    (∃ o, s.actions.get? a.id = some o ∧ o.core = a.core) ∨
    ∃ w step rest, s.tasks[i]? = some (.walk w) ∧ w.steps = step :: rest ∧ w.draft = some a ∧
      Drafted s.journal s.given i w a ∧ t = .walk (w.stored step a) := by
  cases h with
  | birth htask hsteps hdraft hdrafted =>
      exact .inr ⟨_, _, _, htask, hsteps, hdraft, hdrafted, rfl⟩
  | take _ hstored => exact .inl ⟨_, hstored, rfl⟩
  | complete _ hstored => exact .inl ⟨_, hstored, rfl⟩

/-- The state after a write. -/
def write (s : Floor) (i : Nat) (a : Action) (t : Task) : Floor :=
  s.accept i a (s.actions.insert a.id a) t

/-- The store changes by a write or by expiry, and the journal by a write. -/
theorem Effect.write_cases {s s' : Floor} {move : Move} (hs : s.Sound)
    (heffect : s.Effect move s') :
    (∃ i a t, move = .call i ∧ s.Write i a t ∧ s' = s.write i a t) ∨
    (s'.journal = s.journal ∧ s'.actions = s.actions) ∨
    (move.isExpiry = true ∧ s'.journal = s.journal ∧ ∃ p, s'.actions = s.actions.filter p) := by
  cases heffect with
  | @added i w step rest a stored actions htask hsteps hdraft hadd =>
      obtain ⟨rfl, rfl⟩ := hs.added htask hdraft hadd
      exact .inl ⟨i, _, _, rfl, .birth htask hsteps hdraft (hs.tasks _ _ htask _ hdraft), rfl⟩
  | @claimed i pack a taken rest now actions htask hclaim =>
      obtain ⟨ha, -⟩ := hs.tasks _ _ htask a List.mem_cons_self
      obtain ⟨hstored, hnew, rfl, rfl⟩ := hs.booked.claim ha hclaim
      exact .inl ⟨i, _, _, rfl, .take htask hstored hnew, rfl⟩
  | @settled i pack a completed result now actions htask hsettle =>
      obtain ⟨hstored, hpending, rfl, rfl⟩ := hs.booked.settle (hs.tasks _ _ htask) hsettle
      exact .inl ⟨i, _, _, rfl, .complete htask hstored hpending, rfl⟩
  | @expired now age limit =>
      exact .inr (.inr ⟨rfl, rfl, fun _ a => limit ≤ a.state.time, rfl⟩)
  | _ => exact .inr (.inl ⟨rfl, rfl⟩)

end Floor

end Orchestrator
