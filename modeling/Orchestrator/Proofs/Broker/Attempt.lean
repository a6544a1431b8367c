import Orchestrator.Broker
import Orchestrator.Proofs.Action.Life
import Orchestrator.Proofs.Store.Action

/-!
Which actions a pack may take, and what an attempt to move an action does, for any store and for an
action as it was read at any earlier time. An attempt succeeds exactly if the stored action is in
the state that was read, and it is refused for one of two reasons: another has moved the action, or
it is gone.
-/

namespace Orchestrator

namespace Action

/-- A move of an action that is put before the store. -/
def proposed (a : Action) (state : StateRecord) (result : Option Event) : Action :=
  { a with
    state
    history := a.history ++ [state]
    result
    previous := some a.state.value }

theorem take_eq (a : Action) (now : Timestamp) :
    a.take now =
      if a.state.value = .new then .ok (a.proposed ⟨.pending, now⟩ a.result)
      else .error (.illegalTransition a.id a.state.value .pending) := by
  unfold take transition
  simp only [ActionState.canMoveTo_pending]
  rfl

theorem complete_eq (a : Action) (r : Event) (now : Timestamp) :
    a.complete r now =
      if a.state.value = .pending then .ok (a.proposed ⟨outcome r, now⟩ (some r))
      else .error (.illegalTransition a.id a.state.value (outcome r)) := by
  unfold complete transition
  simp only [ActionState.canMoveTo_terminal (outcome_isTerminal r)]
  split <;> rfl

end Action

namespace ActionStore

/-- The store accepts a proposed move exactly if it holds the action in the state that was read. -/
theorem update_proposed_eq_ok {s s' : ActionStore} {a accepted : Action} {state : StateRecord}
    {result : Option Event} :
    s.update (a.proposed state result) = .ok (accepted, s') ↔
      ∃ b, s.get? a.id = some b ∧ b.state.value = a.state.value ∧
        accepted = a.entered state b.history result ∧ s' = s.insert a.id accepted := by
  rw [update_eq_ok]
  simp only [Action.proposed, Action.entered, Option.some.injEq, eq_comm (a := a.state.value)]

theorem update_proposed_eq_error {s : ActionStore} {a : Action} {state : StateRecord}
    {result : Option Event} {e : Error} :
    s.update (a.proposed state result) = .error e ↔
      (s.get? a.id = none ∧ e = .actionNotFound a.id) ∨
      ∃ b, s.get? a.id = some b ∧ b.state.value ≠ a.state.value ∧
        e = .illegalTransition a.id b.state.value state.value := by
  rw [update_eq_error]
  simp only [Action.proposed, Option.some.injEq, ne_eq, eq_comm (a := a.state.value)]

end ActionStore

namespace Broker

open Orchestrator.Action (entered outcome proposed)

theorem mem_candidates {s : ActionStore} (hs : s.Keyed) {pack : Pack} {name : Option String}
    {a : Action} :
    a ∈ candidates s pack name ↔
      s.get? a.id = some a ∧ a.state.value = .new ∧ a.packName = pack.name ∧
        (∀ n, name = some n → a.name = n) ∧
        ∀ key value, a.packLabels.get? key = some value → pack.labels.get? key = some value := by
  have hmem : a ∈ s.values ↔ s.get? a.id = some a :=
    ⟨hs.get?, fun h => Dict.mem_values.2 ⟨a.id, h⟩⟩
  rw [candidates, List.mem_filter, ActionStore.mem_findNew, hmem, ActionStore.isWaiting_iff,
    Pack.serves, Bool.and_eq_true, Labels.fits_iff, beq_iff_eq]
  constructor
  · rintro ⟨⟨hstored, hnew, hpack, hname⟩, -, hfits⟩
    exact ⟨hstored, hnew, hpack, hname, hfits⟩
  · rintro ⟨hstored, hnew, hpack, hname, hfits⟩
    exact ⟨⟨hstored, hnew, hpack, hname⟩, hpack.symm, hfits⟩

theorem candidates_of_ordered {s : ActionStore} {pack : Pack} {name : Option String}
    (hordered : (s.values.filter (ActionStore.isWaiting pack.name name)).Pairwise
      fun a b => ActionStore.precedes a b = true) :
    candidates s pack name = (s.values.filter (ActionStore.isWaiting pack.name name)).filter
      fun a => pack.serves a.packName a.packLabels := by
  rw [candidates, ActionStore.findNew, List.mergeSort_of_pairwise hordered]

theorem claim_eq {s : ActionStore} {a : Action} {now : Timestamp} (hvalue : a.state.value = .new) :
    claim s a now = s.update (a.proposed ⟨.pending, now⟩ a.result) := by
  unfold claim
  rw [Action.take_eq, if_pos hvalue]
  rfl

theorem claim_eq_ok {s s' : ActionStore} {a taken : Action} {now : Timestamp} :
    claim s a now = .ok (taken, s') ↔
      a.state.value = .new ∧ ∃ b, s.get? a.id = some b ∧ b.state.value = .new ∧
        taken = a.entered ⟨.pending, now⟩ b.history a.result ∧ s' = s.insert a.id taken := by
  by_cases hvalue : a.state.value = .new
  · rw [claim_eq hvalue, ActionStore.update_proposed_eq_ok]
    simp only [hvalue, true_and]
  · unfold claim
    rw [Action.take_eq, if_neg hvalue]
    simp [hvalue, bind, Except.bind]

/-- An action that was read as new cannot be taken if it is gone or was moved by another. -/
theorem claim_eq_error {s : ActionStore} {a : Action} {now : Timestamp} {e : Error}
    (hvalue : a.state.value = .new) :
    claim s a now = .error e ↔
      (s.get? a.id = none ∧ e = .actionNotFound a.id) ∨
      ∃ b, s.get? a.id = some b ∧ b.state.value ≠ .new ∧
        e = .illegalTransition a.id b.state.value .pending := by
  rw [claim_eq hvalue, ActionStore.update_proposed_eq_error]
  simp only [hvalue]

theorem settle_eq (s : ActionStore) (pack : Pack) (a : Action) (r : Event) (now : Timestamp) :
    settle s pack a r now =
      if pack.serves a.packName a.packLabels = true then
        if a.state.value = .pending then
          (s.update (a.proposed ⟨outcome r, now⟩ (some r))).map fun (t, s) => (some t, s)
        else .error (.illegalTransition a.id a.state.value (outcome r))
      else .ok (none, s) := by
  unfold settle
  rw [Action.complete_eq]
  split
  · split
    · simp only [bind, Except.bind, Except.map]
      split <;> rfl
    · rfl
  · rfl

theorem settle_eq_ok_some {s s' : ActionStore} {pack : Pack} {a completed : Action} {r : Event}
    {now : Timestamp} :
    settle s pack a r now = .ok (some completed, s') ↔
      pack.serves a.packName a.packLabels = true ∧ a.state.value = .pending ∧
        ∃ b, s.get? a.id = some b ∧ b.state.value = .pending ∧
          completed = a.entered ⟨outcome r, now⟩ b.history (some r) ∧
          s' = s.insert a.id completed := by
  rw [settle_eq]
  by_cases hserves : pack.serves a.packName a.packLabels = true
  · by_cases hvalue : a.state.value = .pending
    · simp only [hserves, hvalue, if_true, true_and]
      rw [← hvalue, ← ActionStore.update_proposed_eq_ok]
      cases s.update (a.proposed ⟨outcome r, now⟩ (some r)) <;> simp [Except.map, Prod.ext_iff]
    · simp [hserves, hvalue]
  · simp [hserves]

/-- Only a pack that does not serve the action is answered with nothing, and it changes nothing. -/
theorem settle_eq_ok_none {s s' : ActionStore} {pack : Pack} {a : Action} {r : Event}
    {now : Timestamp} :
    settle s pack a r now = .ok (none, s') ↔
      pack.serves a.packName a.packLabels = false ∧ s' = s := by
  rw [settle_eq]
  by_cases hserves : pack.serves a.packName a.packLabels = true
  · simp only [hserves, if_true, Bool.true_eq_false, false_and, iff_false]
    split
    · cases s.update (a.proposed ⟨outcome r, now⟩ (some r)) <;> simp [Except.map]
    · simp
  · simp [hserves, eq_comm]

/-- A result is refused because the action was not pending when it was read, because it is gone, or
because another has moved it since. -/
theorem settle_eq_error {s : ActionStore} {pack : Pack} {a : Action} {r : Event} {now : Timestamp}
    {e : Error} :
    settle s pack a r now = .error e ↔
      pack.serves a.packName a.packLabels = true ∧
        ((a.state.value ≠ .pending ∧ e = .illegalTransition a.id a.state.value (outcome r)) ∨
          (a.state.value = .pending ∧
            ((s.get? a.id = none ∧ e = .actionNotFound a.id) ∨
              ∃ b, s.get? a.id = some b ∧ b.state.value ≠ .pending ∧
                e = .illegalTransition a.id b.state.value (outcome r)))) := by
  rw [settle_eq]
  by_cases hserves : pack.serves a.packName a.packLabels = true
  · by_cases hvalue : a.state.value = .pending
    · have hrefused : s.update (a.proposed ⟨outcome r, now⟩ (some r)) = .error e ↔ _ :=
        ActionStore.update_proposed_eq_error
      rw [hvalue] at hrefused
      simp only [hserves, hvalue, if_true, true_and, ne_eq, not_true_eq_false, false_and,
        false_or, ← hrefused]
      cases s.update (a.proposed ⟨outcome r, now⟩ (some r)) <;> simp [Except.map]
    · simp [hserves, hvalue, eq_comm]
  · simp [hserves]

theorem complete_eq (s : ActionStore) (pack : Pack) (id : String) (r : Event) (now : Timestamp) :
    complete s pack id r now = match s.get? id with
      | some a => settle s pack a r now
      | none => .error (.actionNotFound id) := by
  unfold complete find
  cases s.get? id <;> rfl

theorem eq_of_complete_none {s s' : ActionStore} {pack : Pack} {id : String} {r : Event}
    {now : Timestamp} (h : complete s pack id r now = .ok (none, s')) : s' = s := by
  rw [complete_eq] at h
  split at h
  · exact (settle_eq_ok_none.1 h).2
  · cases h

end Broker

end Orchestrator
