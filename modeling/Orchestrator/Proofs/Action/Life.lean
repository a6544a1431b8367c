import Orchestrator.Action

/-!
The life of a single action. A history runs one of four courses, and the state, the length of the
history and the presence of a result determine each other. Of an action only these change, so an
earlier version of it is told by its core and by a history that the later one extends.

The lifecycle has no cycle. Hence two versions of one action that are in the same state are equal,
which is why the store may compare states alone before it accepts a move.
-/

namespace Orchestrator

namespace ActionState

/-- How many states an action has been in when it is in this one. -/
def rank : ActionState → Nat
  | new => 1
  | pending => 2
  | success | fatal => 3

theorem rank_eq_three {s : ActionState} : s.rank = 3 ↔ s.isTerminal = true := by
  cases s <;> simp [rank, isTerminal]

theorem rank_le_three (s : ActionState) : s.rank ≤ 3 := by
  cases s <;> simp [rank]

theorem canMoveTo_pending {s : ActionState} : s.canMoveTo pending = true ↔ s = new := by
  cases s <;> simp [canMoveTo]

theorem canMoveTo_terminal {s t : ActionState} (ht : t.isTerminal = true) :
    s.canMoveTo t = true ↔ s = pending := by
  cases t <;> cases s <;> simp_all [canMoveTo, isTerminal]

end ActionState

namespace Action

/-- The part of an action that never changes. -/
def core (a : Action) : Action :=
  { a with state := default, history := [], result := none, previous := none }

/-- An action that a store accepts in a state, after the states of its past. -/
def entered (a : Action) (state : StateRecord) (past : List StateRecord) (result : Option Event) :
    Action :=
  { a with state, history := past ++ [state], result, previous := none }

@[simp] theorem core_entered (a : Action) (state : StateRecord) (past : List StateRecord)
    (result : Option Event) : (a.entered state past result).core = a.core := rfl

@[simp] theorem id_entered (a : Action) (state : StateRecord) (past : List StateRecord)
    (result : Option Event) : (a.entered state past result).id = a.id := rfl

@[simp] theorem state_entered (a : Action) (state : StateRecord) (past : List StateRecord)
    (result : Option Event) : (a.entered state past result).state = state := rfl

@[simp] theorem core_previous (a : Action) (previous : Option ActionState) :
    { a with previous }.core = a.core := rfl

theorem id_eq_of_core {a b : Action} (h : a.core = b.core) : a.id = b.id := by
  simp only [core, mk.injEq] at h
  exact h.1

theorem run_eq_of_core {a b : Action} (h : a.core = b.core) :
    a.correlationId = b.correlationId ∧ a.stepId = b.stepId := by
  simp only [core, mk.injEq] at h
  obtain ⟨-, -, -, -, -, -, -, hcorrelation, -, -, hstep, -⟩ := h
  exact ⟨hcorrelation, hstep⟩

/-- An action belongs to a step of a run. -/
def IsFor (a : Action) (correlationId stepId : String) : Prop :=
  a.correlationId = correlationId ∧ a.stepId = stepId

theorem IsFor.of_core {a b : Action} {correlationId stepId : String}
    (h : b.IsFor correlationId stepId) (hcore : a.core = b.core) :
    a.IsFor correlationId stepId := by
  obtain ⟨hrun, hstep⟩ := run_eq_of_core hcore
  exact ⟨hrun.trans h.1, hstep.trans h.2⟩

theorem flowUuid_eq_of_core {a b : Action} (h : a.core = b.core) : a.flowUuid = b.flowUuid := by
  have hcore : a.core.flowUuid = b.core.flowUuid := by rw [h]
  exact hcore

theorem eq_of_core {a b : Action} (hcore : a.core = b.core) (hstate : a.state = b.state)
    (hhistory : a.history = b.history) (hresult : a.result = b.result)
    (hprevious : a.previous = b.previous) : a = b := by
  cases a
  cases b
  simp only [core, mk.injEq] at *
  simp_all

/-- The states that the histories of actions run through. -/
def courses : List (List ActionState) :=
  [[.new], [.new, .pending], [.new, .pending, .success], [.new, .pending, .fatal]]

/-- What holds of an action at every moment of its life. -/
structure WellLived (a : Action) : Prop where
  course : a.history.map StateRecord.value ∈ courses
  last : a.history.getLast? = some a.state
  /-- A result is present exactly in a terminal state. -/
  result : a.result.isSome = a.state.value.isTerminal
  fatal : a.state.value = .fatal ↔ ∃ r, a.result = some r ∧ r.name = "FATAL"
  previous : a.previous = none

theorem outcome_isTerminal (r : Event) : (outcome r).isTerminal = true := by
  unfold outcome
  split <;> rfl

theorem outcome_eq_fatal {r : Event} : outcome r = .fatal ↔ r.name = "FATAL" := by
  unfold outcome Event.isFatal Event.fatalName
  by_cases h : r.name = "FATAL" <;> simp [h]

theorem WellLived.begin {a : Action} (hvalue : a.state.value = .new)
    (hhistory : a.history = [a.state])
    (hresult : a.result = none) (hprevious : a.previous = none) : a.WellLived where
  course := by simp [hhistory, hvalue, courses]
  last := by simp [hhistory]
  result := by simp [hresult, hvalue, ActionState.isTerminal]
  fatal := by simp [hresult, hvalue]
  previous := hprevious

theorem WellLived.without_previous {a : Action} (h : a.WellLived) :
    { a with previous := none } = a := by
  rw [← h.previous]

theorem WellLived.length_history {a : Action} (h : a.WellLived) :
    a.history.length = a.state.value.rank := by
  have hlast : (a.history.map StateRecord.value).getLast? = some a.state.value := by
    rw [List.getLast?_map, h.last, Option.map_some]
  have hcourse := h.course
  rw [← List.length_map (f := StateRecord.value)]
  simp only [courses, List.mem_cons, List.not_mem_nil, or_false] at hcourse
  rcases hcourse with hcourse | hcourse | hcourse | hcourse <;>
    · rw [hcourse] at hlast ⊢
      simp only [List.getLast?_cons_cons, List.getLast?_singleton, Option.some.injEq] at hlast
      rw [← hlast]
      rfl

theorem WellLived.course_of_new {a : Action} (h : a.WellLived) (hvalue : a.state.value = .new) :
    a.history.map StateRecord.value = [.new] := by
  have hlength := h.length_history
  have hcourse := h.course
  simp only [courses, List.mem_cons, List.not_mem_nil, or_false] at hcourse
  rcases hcourse with hcourse | hcourse | hcourse | hcourse
  · exact hcourse
  all_goals
    have := congrArg List.length hcourse
    simp [hlength, hvalue, ActionState.rank] at this

theorem WellLived.history_of_new {a : Action} (h : a.WellLived) (hvalue : a.state.value = .new) :
    a.history = [a.state] := by
  have hcourse := h.course_of_new hvalue
  obtain ⟨r, hr⟩ : ∃ r, a.history = [r] := by
    rcases hhistory : a.history with _ | ⟨r, _ | ⟨s, rest⟩⟩ <;> simp [hhistory] at hcourse
    exact ⟨r, rfl⟩
  have hlast := h.last
  simp only [hr, List.getLast?_singleton, Option.some.injEq] at hlast
  rw [hr, hlast]

theorem WellLived.course_of_pending {a : Action} (h : a.WellLived)
    (hvalue : a.state.value = .pending) : a.history.map StateRecord.value = [.new, .pending] := by
  have hlength := h.length_history
  have hcourse := h.course
  simp only [courses, List.mem_cons, List.not_mem_nil, or_false] at hcourse
  rcases hcourse with hcourse | hcourse | hcourse | hcourse
  · have := congrArg List.length hcourse
    simp [hlength, hvalue, ActionState.rank] at this
  · exact hcourse
  all_goals
    have := congrArg List.length hcourse
    simp [hlength, hvalue, ActionState.rank] at this

theorem WellLived.result_eq_none {a : Action} (h : a.WellLived)
    (hvalue : a.state.value.isTerminal = false) : a.result = none := by
  have hresult := h.result
  rw [hvalue] at hresult
  simpa using hresult

theorem WellLived.take {a : Action} (h : a.WellLived) (hvalue : a.state.value = .new)
    (now : Timestamp) : (a.entered ⟨.pending, now⟩ a.history a.result).WellLived where
  course := by simp [entered, h.course_of_new hvalue, courses]
  last := by simp [entered]
  result := by simp [entered, h.result, hvalue, ActionState.isTerminal]
  fatal := by simp [entered, h.result_eq_none (by rw [hvalue]; rfl)]
  previous := rfl

theorem WellLived.complete {a : Action} (h : a.WellLived) (hvalue : a.state.value = .pending)
    (r : Event) (now : Timestamp) :
    (a.entered ⟨outcome r, now⟩ a.history (some r)).WellLived where
  course := by
    have hcourse := h.course_of_pending hvalue
    unfold outcome
    split <;> simp [entered, hcourse, courses]
  last := by simp [entered]
  result := by simp [entered, outcome_isTerminal]
  fatal := by simp [entered, outcome_eq_fatal]
  previous := rfl

/-- One action is a version of another at an earlier moment, or at the same one. -/
structure Older (a b : Action) : Prop where
  core : a.core = b.core
  history : a.history <+: b.history
  /-- A result that is there stays. -/
  result : a.result.isSome = true → b.result = a.result

theorem Older.refl (a : Action) : a.Older a := ⟨rfl, List.prefix_rfl, fun _ => rfl⟩

theorem Older.trans {a b c : Action} (hab : a.Older b) (hbc : b.Older c) : a.Older c where
  core := hab.core.trans hbc.core
  history := hab.history.trans hbc.history
  result := by
    intro h
    rw [hbc.result (by rwa [hab.result h]), hab.result h]

theorem Older.id {a b : Action} (h : a.Older b) : a.id = b.id := id_eq_of_core h.core

/-- A new version in a later state, with the result that it has or gets. -/
theorem older_entered {a : Action} (state : StateRecord) (result : Option Event)
    (h : a.result.isSome = true → result = a.result) :
    a.Older (a.entered state a.history result) where
  core := rfl
  history := List.prefix_append _ _
  result := h

theorem Older.rank_le {a b : Action} (h : a.Older b) (ha : a.WellLived) (hb : b.WellLived) :
    a.state.value.rank ≤ b.state.value.rank := by
  rw [← ha.length_history, ← hb.length_history]
  exact h.history.length_le

/-- What has finished stays so. -/
theorem Older.hasFinished {a b : Action} (h : a.Older b) (ha : a.WellLived) (hb : b.WellLived)
    (hfinished : a.hasFinished = true) : b.hasFinished = true := by
  have hle := h.rank_le ha hb
  rw [ActionState.rank_eq_three.2 hfinished] at hle
  refine ActionState.rank_eq_three.1 ?_
  have hmost := b.state.value.rank_le_three
  omega

/-- An older version in the same state is the same version: no state is entered twice. -/
theorem Older.eq {a b : Action} (h : a.Older b) (ha : a.WellLived) (hb : b.WellLived)
    (hvalue : a.state.value = b.state.value) : a = b := by
  have hlength : a.history.length = b.history.length := by
    rw [ha.length_history, hb.length_history, hvalue]
  have hhistory : a.history = b.history := h.history.eq_of_length hlength
  have hstate : some a.state = some b.state := by rw [← ha.last, ← hb.last, hhistory]
  refine eq_of_core h.core (Option.some.inj hstate) hhistory ?_ (ha.previous.trans hb.previous.symm)
  by_cases hsome : a.result.isSome = true
  · exact (h.result hsome).symm
  · have hboth : a.result.isSome = b.result.isSome := by rw [ha.result, hb.result, hvalue]
    have hnone : ¬ b.result.isSome = true := by rwa [← hboth]
    rw [Option.not_isSome_iff_eq_none.1 hsome, Option.not_isSome_iff_eq_none.1 hnone]

end Action

end Orchestrator
