import Orchestrator.Proofs.Flow.Refusals

/-!
The order of the steps in a flow. What an event does to a run is the same in every order, since no
step can tell within one event whether another has had its turn: neither is an action that has just
been created in the way of another step, nor has it finished.
-/

namespace Orchestrator

/-- The same flow with its steps in another order. -/
def FlowInstance.reorder (i : FlowInstance) (steps : List Step) : FlowInstance :=
  { i with flow := { i.flow with steps } }

namespace Engine

/-- The turn of a step that is only taken if the step is due by then. -/
def takeTurnIfDue {σ : Type} (e : Engine σ) (event : Event) (p : Progress σ) (step : Step) :
    Progress σ :=
  if e.mode.isCandidate step p.run event then e.takeTurn event p step else p

/-- Moves a run forward and looks before each step whether it is due in the run as it has become. -/
def processRechecking {σ : Type} (e : Engine σ) (store : σ) (run : FlowInstance) (event : Event)
    (turn : Nat) : Progress σ :=
  run.flow.steps.foldl (e.takeTurnIfDue event) ⟨store, run, [], turn⟩

/-- Two ways to move a run forward have created the same actions, up to their order, identifiers and
times, and the run has the same action for each step. -/
structure SameOutcome {σ σ' : Type} (i : FlowInstance) (p : Progress σ) (p' : Progress σ') :
    Prop where
  created : (p.created.map Action.unstamped).Perm (p'.created.map Action.unstamped)
  kept : ∀ id a, i.actions.get? id = some a →
    p.run.actions.get? id = some a ∧ p'.run.actions.get? id = some a
  actions : ∀ id, (p.run.actions.get? id).map Action.unstamped =
    (p'.run.actions.get? id).map Action.unstamped

variable {σ σ' : Type} {e : Engine σ} {e' : Engine σ'} {event : Event} {i : FlowInstance}
  {store : σ} {store' : σ'} {turn turn' : Nat} {contents : σ → ActionStore}
  {contents' : σ' → ActionStore} {steps : List Step} {step other : Step}

theorem Accounts.get?_unstamped {log : List Attempt} {p : Progress σ}
    (h : e.Accounts contents event i store log p) (id : String) (b : Action) :
    (p.run.actions.get? id).map Action.unstamped = some b ↔
      (i.actions.get? id).map Action.unstamped = some b ∨
        (b ∈ p.created.map Action.unstamped ∧ b.stepId = id) := by
  simp only [Option.map_eq_some_iff, h.actions, List.mem_map]
  constructor
  · rintro ⟨a, hold | ⟨hcreated, hid⟩, rfl⟩
    · exact .inl ⟨a, hold, rfl⟩
    · exact .inr ⟨⟨a, hcreated, rfl⟩, hid⟩
  · rintro (⟨a, hold, rfl⟩ | ⟨⟨a, hcreated, rfl⟩, hid⟩)
    · exact ⟨a, .inl hold, rfl⟩
    · exact ⟨a, .inr ⟨hcreated, hid⟩, rfl⟩

theorem candidates_reorder (hperm : steps.Perm i.flow.steps) (mode : DependencyMode)
    (event : Event) :
    ((i.reorder steps).candidates mode event).Perm (i.candidates mode event) :=
  hperm.filter fun step => mode.isCandidate step i event

theorem Over.sameOutcome_reorder (hover : e.Over contents) (hover' : e'.Over contents')
    (hids : i.flow.stepIds.Nodup) (hperm : steps.Perm i.flow.steps) (hmode : e'.mode = e.mode)
    (hread : i.flow.ReadAlike e'.renderer e.renderer)
    (hstored : ∀ t ∈ e.log store i event turn, t.isStored = true)
    (hstored' : ∀ t ∈ e'.log store' (i.reorder steps) event turn', t.isStored = true) :
    SameOutcome i (e'.process store' (i.reorder steps) event turn')
      (e.process store i event turn) := by
  have hids' : (i.reorder steps).flow.stepIds.Nodup := (hperm.map Step.id).nodup_iff.2 hids
  have haccounts := hover.accounts_process hids store event turn
  have haccounts' := hover'.accounts_process hids' store' event turn'
  have hcreated : ((e'.process store' (i.reorder steps) event turn').created.map
      Action.unstamped).Perm ((e.process store i event turn).created.map Action.unstamped) := by
    rw [hover.created_of_all_stored hstored, hover'.created_of_all_stored hstored', hmode]
    have hdrafts : ((i.reorder steps).candidates e.mode event).filterMap
          ((i.reorder steps).draft? e'.renderer event) =
        ((i.reorder steps).candidates e.mode event).filterMap (i.draft? e.renderer event) := by
      refine List.filterMap_congr fun step hstep => ?_
      have hmem : step ∈ steps := (FlowInstance.mem_candidates.1 hstep).1
      exact FlowInstance.draft?_congr rfl rfl (hread step (hperm.mem_iff.1 hmem))
    rw [hdrafts]
    exact (candidates_reorder hperm e.mode event).filterMap _
  refine ⟨hcreated, fun id a ha => ?_, fun id => ?_⟩
  · exact ⟨(haccounts'.actions id a).2 (.inl ha), (haccounts.actions id a).2 (.inl ha)⟩
  · apply Option.ext
    intro b
    rw [haccounts'.get?_unstamped, haccounts.get?_unstamped, hcreated.mem_iff]
    rfl

section

variable (hover : e.Over contents)

include hover

theorem Over.isCandidate_takeTurn {p : Progress σ}
    (hdue : e.mode.isCandidate step p.run event = true) (hother : other.id ≠ step.id) :
    e.mode.isCandidate other (e.takeTurn event p step).run event =
      e.mode.isCandidate other p.run event := by
  rw [takeTurn_eq]
  cases hattempt : e.attempt? event p.run p.store p.turn step with
  | none => rfl
  | some attempted =>
      obtain ⟨t, after⟩ := attempted
      obtain ⟨-, -, hstep, -⟩ := attempt?_eq_some hattempt
      have hnew : p.run.hasActionFor step.id = false := by
        simp only [DependencyMode.isCandidate, Bool.and_eq_true, Bool.not_eq_true'] at hdue
        exact hdue.1.2
      -- An action that has just been created has not finished, so it meets no dependency.
      have hgains : p.run.Gains (p.run.enter t) (gainedBy [t]) := by
        change p.run.Gains ([t].foldl .enter p.run) (gainedBy [t])
        refine FlowInstance.gains_foldl_enter (List.nodup_singleton _) ?_ ?_
        · simpa [hstep] using hnew
        · simpa using fun a ha => (hover.stored_unfinished hattempt ha).1
      have hunlisted : (gainedBy [t]).contains other.id = false := by
        cases hstored : t.isStored <;> simp [gainedBy, hstored, hstep, hother]
      rw [hgains.isCandidate, hunlisted, Bool.not_false, Bool.and_true]

-- By induction on the steps to come, of which the run still says what it said in the beginning.
theorem Over.foldl_takeTurnIfDue {p : Progress σ} (hdistinct : (steps.map (·.id)).Nodup)
    (hsame : ∀ s ∈ steps, e.mode.isCandidate s p.run event = e.mode.isCandidate s i event) :
    steps.foldl (e.takeTurnIfDue event) p =
      (steps.filter fun s => e.mode.isCandidate s i event).foldl (e.takeTurn event) p := by
  induction steps generalizing p with
  | nil => rfl
  | cons step rest ih =>
      obtain ⟨hother, hrest⟩ := List.nodup_cons.1 hdistinct
      have hfirst := hsame step List.mem_cons_self
      rw [List.foldl_cons, List.filter_cons, takeTurnIfDue, hfirst]
      by_cases hdue : e.mode.isCandidate step i event = true
      · rw [if_pos hdue, if_pos hdue, List.foldl_cons]
        refine ih hrest fun s hs => ?_
        have hne : s.id ≠ step.id := fun heq => hother (List.mem_map.2 ⟨s, hs, heq⟩)
        rw [hover.isCandidate_takeTurn (hfirst.trans hdue) hne]
        exact hsame s (List.mem_cons_of_mem _ hs)
      · rw [if_neg hdue, if_neg hdue]
        exact ih hrest fun s hs => hsame s (List.mem_cons_of_mem _ hs)

/-- It makes no difference whether the steps are chosen in advance or each in its turn. -/
theorem Over.processRechecking_eq (hids : i.flow.stepIds.Nodup) (store : σ) (event : Event)
    (turn : Nat) : e.processRechecking store i event turn = e.process store i event turn :=
  hover.foldl_takeTurnIfDue hids fun _ _ => rfl

end

/-- Steps in another order lead to the same outcome when the store refuses nothing and templates
draw nothing at random; and it is the same, over any store, to choose the steps in advance or to look
before each of them whether it is due. -/
theorem order_irrelevant (hover : e.Over contents) (hover' : e'.Over contents')
    (hids : i.flow.stepIds.Nodup) (hperm : steps.Perm i.flow.steps) (hmode : e'.mode = e.mode)
    (hread : i.flow.ReadAlike e'.renderer e.renderer) (store : σ) (store' : σ') (event : Event)
    (turn turn' : Nat) :
    ((∀ t ∈ e.log store i event turn, t.isStored = true) →
      (∀ t ∈ e'.log store' (i.reorder steps) event turn', t.isStored = true) →
      SameOutcome i (e'.process store' (i.reorder steps) event turn')
        (e.process store i event turn)) ∧
      e.processRechecking store i event turn = e.process store i event turn :=
  ⟨hover.sameOutcome_reorder hover' hids hperm hmode hread,
    hover.processRechecking_eq hids store event turn⟩

/-- A lunch with bread, which waits until the soup is finished. -/
def breadLunch : FlowDefinition :=
  { lunch with
    steps := lunch.steps ++
      [⟨"bread", ["soup"], ⟨"hall", "order", ∅⟩, "", ∅, ⟨"kitchen", "bread", ∅, .null⟩⟩] }

/-- Two orders of the same lunch, and neither brings the bread. -/
theorem breadLunch_backwards :
    let i : FlowInstance := .start breadLunch "table"
    let e := (Hub.empty .any flaky.stamp).engine
    let e' := (Hub.empty .any fun n => flaky.stamp (n + 10)).engine
    let p := e.process ∅ i order 0
    let p' := e'.process ∅ (i.reorder breadLunch.steps.reverse) order 0
    p.created.map (·.stepId) = ["soup", "salad"] ∧
      p'.created.map (·.stepId) = ["salad", "soup"] ∧ SameOutcome i p' p ∧
      e.processRechecking ∅ i order 0 = p := by
  have hboth := order_irrelevant (i := .start breadLunch "table")
    (over_hub (Hub.empty .any flaky.stamp))
    (over_hub (Hub.empty .any fun n => flaky.stamp (n + 10))) (by decide +kernel)
    (List.reverse_perm breadLunch.steps) rfl (fun _ _ _ _ _ => rfl) ∅ ∅ order 0 0
  exact ⟨by decide +kernel, by decide +kernel, hboth.1 (by decide +kernel) (by decide +kernel),
    hboth.2⟩

end Engine

end Orchestrator
