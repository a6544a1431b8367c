import Orchestrator.Proofs.Evaluation.Sources
import Orchestrator.Proofs.Except
import Orchestrator.Proofs.Flow.OneByOne

/-!
Moving a run forward over a store that may refuse what it is asked to add. Each step that is due
puts its action to the store once, in the order of the flow, and the run gains what the store accepts.
What the run gains does not keep the other steps from their turn.
-/

namespace Orchestrator

/-- An action that a step has put to a store, and what the store has answered. -/
structure Attempt where
  step : Step
  draft : Action
  answer : Except Error Action

/-- The action as it was stored, if it was. -/
def Attempt.stored? (t : Attempt) : Option Action := t.answer.toOption

namespace FlowInstance

/-- A run with the action of an attempt, if it was stored. -/
def enter (i : FlowInstance) (t : Attempt) : FlowInstance :=
  match t.stored? with
  | some a => { i with actions := i.actions.insert t.step.id a }
  | none => i

/-- The action that a step gives in a run, apart from its identifier and its times. -/
def draft? (i : FlowInstance) (r : Renderer) (event : Event) (step : Step) : Option Action :=
  match step.evaluate r event i.context default with
  | .ok (some a) => some (i.adopt step a).unstamped
  | _ => none

end FlowInstance

namespace Engine

variable {σ : Type}

/-- A store that may refuse for reasons of its own. It holds a store of actions, to which it adds
what it accepts; what it refuses leaves no trace there. -/
structure Over (e : Engine σ) (contents : σ → ActionStore) : Prop where
  accepts : ∀ {store after a stored}, e.add store a = (.ok stored, after) →
    (contents store).add a = .ok (stored, contents after)
  refuses : ∀ {store after a refusal}, e.add store a = (.error refusal, after) →
    contents after = contents store

/-- What a step puts to the store when its turn comes, and the store after that. -/
def attempt? (e : Engine σ) (event : Event) (i : FlowInstance) (store : σ) (turn : Nat)
    (step : Step) : Option (Attempt × σ) :=
  match step.evaluate e.renderer event i.context (e.stamp turn) with
  | .ok (some action) =>
    let draft := i.adopt step action
    some (⟨step, draft, (e.add store draft).1⟩, (e.add store draft).2)
  | _ => none

/-- What steps put to the store one after the other. -/
def attempts (e : Engine σ) (event : Event) (i : FlowInstance) :
    σ → Nat → List Step → List Attempt
  | _, _, [] => []
  | store, turn, step :: rest =>
    match e.attempt? event i store turn step with
    | some (t, store) => t :: e.attempts event i store (turn + 1) rest
    | none => e.attempts event i store (turn + 1) rest

/-- The store has been asked to add the drafts of a log, in this order and nothing else, and has
given the log's answers. -/
def Asks (e : Engine σ) (store : σ) (log : List Attempt) (after : σ) : Prop :=
  match log with
  | [] => after = store
  | t :: rest => ∃ next, e.add store t.draft = (t.answer, next) ∧ e.Asks next rest after

end Engine

namespace FlowInstance

variable {i : FlowInstance} {t : Attempt}

theorem enter_eq (i : FlowInstance) (t : Attempt) :
    i.enter t = { i with actions := (i.enter t).actions } := by
  unfold enter
  cases t.stored? <;> rfl

theorem draft?_eq (i : FlowInstance) (r : Renderer) (event : Event) (step : Step) (stamp : Stamp) :
    i.draft? r event step =
      match step.evaluate r event i.context stamp with
      | .ok (some a) => some (i.adopt step a).unstamped
      | _ => none := by
  have hsame := Step.evaluate_unstamped r step event i.context default stamp
  unfold draft?
  generalize step.evaluate r event i.context default = outcome at hsame
  generalize step.evaluate r event i.context stamp = outcome' at hsame
  rcases outcome with _ | _ | a <;> rcases outcome' with _ | _ | b <;>
    simp only [Except.map, Option.map_some, Option.map_none, Except.ok.injEq, reduceCtorEq,
      Option.some.injEq] at hsame ⊢
  exact congrArg (i.adopt step) hsame

theorem draft?_congr {j : FlowInstance} {r r' : Renderer} {event : Event} {step : Step}
    (hcontext : j.context = i.context) (hadopt : j.adopt step = i.adopt step)
    (hagree : r'.AgreeOn r step.sources) : j.draft? r' event step = i.draft? r event step := by
  unfold draft?
  rw [hcontext, hadopt, Step.evaluate_congr hagree]

theorem get?_enter (i : FlowInstance) (t : Attempt) (id : String) :
    (i.enter t).actions.get? id =
      if id = t.step.id then t.stored?.or (i.actions.get? id) else i.actions.get? id := by
  unfold enter
  cases hstored : t.stored? with
  | none => simp
  | some a => simp [Dict.get?_insert]

end FlowInstance

namespace Engine

variable {σ : Type} {e : Engine σ} {event : Event} {i : FlowInstance} {store after : σ}
  {turn : Nat} {step : Step} {steps : List Step} {t : Attempt}

theorem attempt?_eq_some (h : e.attempt? event i store turn step = some (t, after)) :
    ∃ a, step.evaluate e.renderer event i.context (e.stamp turn) = .ok (some a) ∧
      t.step = step ∧ t.draft = i.adopt step a ∧ e.add store t.draft = (t.answer, after) := by
  unfold attempt? at h
  split at h
  · next a ha =>
    simp only [Option.some.injEq, Prod.mk.injEq] at h
    obtain ⟨rfl, rfl⟩ := h
    exact ⟨a, ha, rfl, rfl, rfl⟩
  · cases h

theorem attempt?_eq_none (h : e.attempt? event i store turn step = none) (a : Action) :
    step.evaluate e.renderer event i.context (e.stamp turn) ≠ .ok (some a) := by
  intro ha
  simp [attempt?, ha] at h

theorem takeTurn_eq (e : Engine σ) (event : Event) (p : Progress σ) (step : Step) :
    e.takeTurn event p step =
      match e.attempt? event p.run p.store p.turn step with
      | some (t, after) =>
        ⟨after, p.run.enter t, p.created ++ t.stored?.toList, p.turn + 1⟩
      | none => { p with turn := p.turn + 1 } := by
  unfold takeTurn attempt?
  cases step.evaluate e.renderer event p.run.context (e.stamp p.turn) with
  | error refusal => rfl
  | ok outcome =>
      cases outcome with
      | none => rfl
      | some a =>
          cases hadd : e.add p.store (p.run.adopt step a) with
          | mk answer after =>
              cases answer <;>
                simp [hadd, FlowInstance.enter, Attempt.stored?, Except.toOption]

/-- What is put to the store does not depend on the actions that the run has already. -/
theorem attempts_enter (e : Engine σ) (event : Event) (i : FlowInstance) (t : Attempt)
    (store : σ) (turn : Nat) (steps : List Step) :
    e.attempts event (i.enter t) store turn steps = e.attempts event i store turn steps := by
  have hone : ∀ store turn step,
      e.attempt? event (i.enter t) store turn step = e.attempt? event i store turn step := by
    intro store turn step
    rw [FlowInstance.enter_eq]
    rfl
  induction steps generalizing store turn with
  | nil => rfl
  | cons step rest ih => simp only [attempts, hone, ih]

theorem foldl_takeTurn (e : Engine σ) (event : Event) (steps : List Step) (p : Progress σ) :
    let log := e.attempts event p.run p.store p.turn steps
    (steps.foldl (e.takeTurn event) p).run = log.foldl FlowInstance.enter p.run ∧
      (steps.foldl (e.takeTurn event) p).created =
        p.created ++ log.filterMap Attempt.stored? := by
  induction steps generalizing p with
  | nil => simp [attempts]
  | cons step rest ih =>
      rw [List.foldl_cons, takeTurn_eq, attempts]
      cases e.attempt? event p.run p.store p.turn step with
      | none => exact ih { p with turn := p.turn + 1 }
      | some attempted =>
          obtain ⟨t, after⟩ := attempted
          have hrest := ih ⟨after, p.run.enter t, p.created ++ t.stored?.toList, p.turn + 1⟩
          simp only [attempts_enter] at hrest
          refine ⟨hrest.1, hrest.2.trans ?_⟩
          cases hstored : t.stored? <;> simp [hstored]

theorem asks_foldl_takeTurn (e : Engine σ) (event : Event) (steps : List Step) (p : Progress σ) :
    e.Asks p.store (e.attempts event p.run p.store p.turn steps)
      (steps.foldl (e.takeTurn event) p).store := by
  induction steps generalizing p with
  | nil => rfl
  | cons step rest ih =>
      rw [List.foldl_cons, takeTurn_eq, attempts]
      cases hfirst : e.attempt? event p.run p.store p.turn step with
      | none => exact ih { p with turn := p.turn + 1 }
      | some attempted =>
          obtain ⟨t, after⟩ := attempted
          obtain ⟨-, -, -, -, hadd⟩ := attempt?_eq_some hfirst
          have hrest := ih ⟨after, p.run.enter t, p.created ++ t.stored?.toList, p.turn + 1⟩
          rw [attempts_enter] at hrest
          exact ⟨after, hadd, hrest⟩

theorem draft?_of_attempt (h : e.attempt? event i store turn step = some (t, after)) :
    i.draft? e.renderer event step = some t.draft.unstamped := by
  obtain ⟨a, ha, -, hdraft, -⟩ := attempt?_eq_some h
  rw [i.draft?_eq _ _ _ (e.stamp turn), ha, hdraft]

theorem draft?_of_no_attempt (h : e.attempt? event i store turn step = none) :
    i.draft? e.renderer event step = none := by
  rw [i.draft?_eq _ _ _ (e.stamp turn)]
  split
  · next a ha => exact absurd ha (attempt?_eq_none h a)
  · rfl

theorem mem_attempts (h : t ∈ e.attempts event i store turn steps) :
    t.step ∈ steps ∧ ∃ before after n, e.attempt? event i before n t.step = some (t, after) := by
  induction steps generalizing store turn with
  | nil => cases h
  | cons step rest ih =>
      rw [attempts] at h
      cases hfirst : e.attempt? event i store turn step with
      | none =>
          simp only [hfirst] at h
          exact (ih h).imp_left (List.mem_cons_of_mem _)
      | some attempted =>
          obtain ⟨first, after⟩ := attempted
          simp only [hfirst] at h
          rcases List.mem_cons.1 h with rfl | hrest
          · obtain ⟨-, -, hstep, -⟩ := attempt?_eq_some hfirst
            rw [hstep]
            exact ⟨List.mem_cons_self, store, after, turn, hfirst⟩
          · exact (ih hrest).imp_left (List.mem_cons_of_mem _)

/-- What is put to the store can be told from the steps and their drafts. -/
theorem filterMap_attempts {β : Type} (f : Step → Action → Option β) (e : Engine σ) (event : Event)
    (i : FlowInstance) (store : σ) (turn : Nat) (steps : List Step) :
    (e.attempts event i store turn steps).filterMap (fun t => f t.step t.draft.unstamped) =
      steps.filterMap fun step => (i.draft? e.renderer event step).bind (f step) := by
  induction steps generalizing store turn with
  | nil => rfl
  | cons step rest ih =>
      rw [attempts]
      cases hfirst : e.attempt? event i store turn step with
      | none => simp [draft?_of_no_attempt hfirst, ih]
      | some attempted =>
          obtain ⟨-, -, hstep, -⟩ := attempt?_eq_some hfirst
          simp [draft?_of_attempt hfirst, ih, hstep, List.filterMap_cons]

theorem map_step_attempts (e : Engine σ) (event : Event) (i : FlowInstance) (store : σ)
    (turn : Nat) (steps : List Step) :
    (e.attempts event i store turn steps).map Attempt.step =
      steps.filter fun step => (i.draft? e.renderer event step).isSome := by
  have hsteps := filterMap_attempts (fun step _ => some step) e event i store turn steps
  rw [List.filterMap_eq_map'] at hsteps
  rw [hsteps, ← List.filterMap_eq_filter]
  refine List.filterMap_congr fun step _ => ?_
  cases hdraft : i.draft? e.renderer event step <;> simp [Option.guard, hdraft]

theorem map_draft_attempts (e : Engine σ) (event : Event) (i : FlowInstance) (store : σ)
    (turn : Nat) (steps : List Step) :
    (e.attempts event i store turn steps).map (fun t => t.draft.unstamped) =
      steps.filterMap (i.draft? e.renderer event) := by
  have hdrafts := filterMap_attempts (fun _ draft => some draft) e event i store turn steps
  simpa only [List.filterMap_eq_map', Option.bind_fun_some] using hdrafts

section

variable {contents : σ → ActionStore} (hover : e.Over contents)

include hover

theorem Over.stored_eq {a : Action} (h : e.attempt? event i store turn step = some (t, after))
    (ha : t.stored? = some a) : a = t.draft := by
  obtain ⟨made, hmade, -, hdraft, hadd⟩ := attempt?_eq_some h
  have hanswer : t.answer = .ok a := toOption_eq_some.1 ha
  rw [hanswer] at hadd
  obtain ⟨-, hstored, -⟩ := ActionStore.add_eq_ok.1 (hover.accepts hadd)
  obtain ⟨labels, input, context, rfl⟩ := Step.evaluate_eq_some hmade
  rw [hstored, hdraft]
  rfl

/-- A step's action has not finished when it is stored, and it carries the step's identifier. -/
theorem Over.stored_unfinished {a : Action}
    (h : e.attempt? event i store turn step = some (t, after)) (ha : t.stored? = some a) :
    a.hasFinished = false ∧ a.stepId = t.step.id := by
  obtain ⟨made, hmade, hstep, hdraft, -⟩ := attempt?_eq_some h
  obtain ⟨labels, input, context, rfl⟩ := Step.evaluate_eq_some hmade
  rw [hover.stored_eq h ha, hdraft, hstep]
  exact ⟨rfl, rfl⟩

theorem Over.adds_of_add (h : e.add store t.draft = (t.answer, after)) :
    (contents store).Adds (contents after) t.stored?.toList := by
  cases hanswer : t.answer with
  | error refusal =>
      rw [hanswer] at h
      rw [hover.refuses h, Attempt.stored?, hanswer]
      exact .refl _
  | ok stored =>
      rw [hanswer] at h
      obtain ⟨hunused, hstored, hafter⟩ := ActionStore.add_eq_ok.1 (hover.accepts h)
      have hid : t.draft.id = stored.id := by rw [hstored]
      rw [hid] at hunused hafter
      rw [hafter, Attempt.stored?, hanswer]
      exact .insert hunused

theorem Over.adds_of_asks {log : List Attempt} (h : e.Asks store log after) :
    (contents store).Adds (contents after) (log.filterMap Attempt.stored?) := by
  induction log generalizing store with
  | nil =>
      obtain rfl : after = store := h
      exact .refl _
  | cons t rest ih =>
      obtain ⟨next, hadd, hrest⟩ := h
      have hboth := (hover.adds_of_add hadd).append (ih hrest)
      cases hstored : t.stored? <;> simpa [hstored] using hboth

end

end Engine

/-- Whether the action of an attempt was stored. -/
def Attempt.isStored (t : Attempt) : Bool := t.stored?.isSome

/-- The steps that have got an action. -/
def gainedBy (log : List Attempt) : List String :=
  (log.filter Attempt.isStored).map fun t => t.step.id

namespace FlowInstance

variable {i j : FlowInstance} {ids : List String} {t : Attempt} {log : List Attempt}

/-- A run has gained actions for some steps, and as far as the run can tell none has finished. -/
structure Gains (i j : FlowInstance) (ids : List String) : Prop where
  others : j = { i with actions := j.actions }
  has : ∀ id, j.hasActionFor id = (i.hasActionFor id || ids.contains id)
  finished : ∀ id, j.stepFinished id = i.stepFinished id

theorem Gains.isCandidate (h : i.Gains j ids) (mode : DependencyMode) (step : Step)
    (event : Event) :
    mode.isCandidate step j event = (mode.isCandidate step i event && !ids.contains step.id) := by
  have hsatisfied : mode.satisfied step j = mode.satisfied step i := by
    have hfinished : j.stepFinished = i.stepFinished := funext h.finished
    simp only [DependencyMode.satisfied, hfinished]
  rw [DependencyMode.isCandidate, DependencyMode.isCandidate, hsatisfied, h.has, Bool.not_or]
  cases step.listensTo event <;> cases i.hasActionFor step.id <;> cases ids.contains step.id <;>
    simp

theorem Gains.candidates (h : i.Gains j ids) (mode : DependencyMode) (event : Event) :
    j.candidates mode event =
      (i.candidates mode event).filter fun step => !ids.contains step.id := by
  have hflow : j.flow = i.flow := by rw [h.others]
  unfold FlowInstance.candidates
  rw [hflow, List.filter_filter]
  refine List.filter_congr fun step _ => ?_
  rw [h.isCandidate, Bool.and_comm]

theorem get?_foldl_enter (hdistinct : (log.map fun t => t.step.id).Nodup)
    (hnew : ∀ t ∈ log, i.hasActionFor t.step.id = false) (id : String) (a : Action) :
    (log.foldl enter i).actions.get? id = some a ↔
      i.actions.get? id = some a ∨ ∃ t ∈ log, t.step.id = id ∧ t.stored? = some a := by
  induction log generalizing i with
  | nil => simp
  | cons t rest ih =>
      obtain ⟨hother, hrest⟩ := List.nodup_cons.1 hdistinct
      have hnone : i.actions.get? t.step.id = none :=
        Dict.contains_eq_false.1 (hnew t List.mem_cons_self)
      have hnext : ∀ u ∈ rest, (i.enter t).hasActionFor u.step.id = false := by
        intro u hu
        have hne : u.step.id ≠ t.step.id := fun heq => hother (List.mem_map.2 ⟨u, hu, heq⟩)
        rw [hasActionFor, Dict.contains, get?_enter, if_neg hne]
        exact hnew u (List.mem_cons_of_mem _ hu)
      rw [List.foldl_cons, ih hrest hnext, get?_enter, List.exists_mem_cons_iff, ← or_assoc]
      refine or_congr_left ?_
      by_cases hid : id = t.step.id
      · rw [if_pos hid, hid, hnone, Option.or_none]
        simp
      · simp [hid, Ne.symm hid]

theorem mem_gainedBy {id : String} :
    id ∈ gainedBy log ↔ ∃ t ∈ log, t.step.id = id ∧ ∃ a, t.stored? = some a := by
  simp only [gainedBy, Attempt.isStored, List.mem_map, List.mem_filter,
    Option.isSome_iff_exists, and_assoc]
  exact exists_congr fun t => and_congr_right fun _ => and_comm

theorem isStored_eq_contains (hdistinct : (log.map fun t => t.step.id).Nodup) (ht : t ∈ log) :
    t.isStored = (gainedBy log).contains t.step.id := by
  rw [Bool.eq_iff_iff, List.contains_iff_mem, mem_gainedBy, Attempt.isStored,
    Option.isSome_iff_exists]
  constructor
  · exact fun hstored => ⟨t, ht, rfl, hstored⟩
  · rintro ⟨u, hu, hid, hstored⟩
    rwa [← List.inj_on_of_nodup_map hdistinct hu ht hid]

theorem gains_foldl_enter (hdistinct : (log.map fun t => t.step.id).Nodup)
    (hnew : ∀ t ∈ log, i.hasActionFor t.step.id = false)
    (hunfinished : ∀ t ∈ log, ∀ a, t.stored? = some a → a.hasFinished = false) :
    i.Gains (log.foldl enter i) (gainedBy log) := by
  have hget := get?_foldl_enter hdistinct hnew
  have hothers : log.foldl enter i = { i with actions := (log.foldl enter i).actions } := by
    clear hget hdistinct hnew hunfinished
    induction log generalizing i with
    | nil => rfl
    | cons t rest ih => rw [List.foldl_cons, ih, enter_eq]
  refine ⟨hothers, fun id => ?_, fun id => ?_⟩
  · rw [Bool.eq_iff_iff, Bool.or_eq_true, List.contains_iff_mem, mem_gainedBy]
    simp only [hasActionFor, Dict.contains_iff, hget]
    constructor
    · rintro ⟨a, hold | ⟨t, ht, hid, ha⟩⟩
      · exact .inl ⟨a, hold⟩
      · exact .inr ⟨t, ht, hid, a, ha⟩
    · rintro (⟨a, hold⟩ | ⟨t, ht, hid, a, ha⟩)
      · exact ⟨a, .inl hold⟩
      · exact ⟨a, .inr ⟨t, ht, hid, ha⟩⟩
  · have hfinished : ∀ j : FlowInstance, j.stepFinished id = true ↔
        ∃ a, j.actions.get? id = some a ∧ a.hasFinished = true :=
      fun j => Option.any_eq_true _ _
    rw [Bool.eq_iff_iff, hfinished, hfinished]
    refine exists_congr fun a => and_congr_left fun ha => ?_
    rw [hget]
    refine or_iff_left ?_
    rintro ⟨t, ht, -, hstored⟩
    rw [hunfinished t ht a hstored] at ha
    cases ha

end FlowInstance

end Orchestrator
