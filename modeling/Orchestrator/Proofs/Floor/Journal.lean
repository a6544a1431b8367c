import Orchestrator.Proofs.Broker.Attempt
import Orchestrator.Proofs.Floor.Basic

/-!
The journal of a store accounts for what is stored: a stored action is the latest of the versions that
were accepted under its identifier, and these went from state to state in the order of the lifecycle.

So a copy of an action, however old, is a version that the journal knows. When an attempt with it
succeeds, the stored action is that very copy: it was found in the same state, and no state is
entered twice.
-/

namespace Orchestrator

namespace Floor

/-- A version of an action that the store once accepted. -/
def Recorded (journal : List Entry) (a : Action) : Prop := ∃ i, ⟨i, a⟩ ∈ journal

theorem not_recorded_nil (a : Action) : ¬ Recorded [] a := by
  rintro ⟨i, hi⟩
  cases hi

theorem Recorded.append {journal : List Entry} {a : Action} (h : Recorded journal a)
    (more : List Entry) : Recorded (journal ++ more) a := by
  obtain ⟨i, hi⟩ := h
  exact ⟨i, List.mem_append_left _ hi⟩

theorem recorded_append_singleton {journal : List Entry} {i : Nat} {a b : Action} :
    Recorded (journal ++ [⟨i, a⟩]) b ↔ Recorded journal b ∨ b = a := by
  simp [Recorded, exists_or]

/-- The states of the versions of one action come one after the other. -/
def Advances (journal : List Entry) : Prop :=
  journal.Pairwise fun x y =>
    x.action.id = y.action.id → x.action.state.value.rank < y.action.state.value.rank

/-- An action enters a state by one write alone. -/
theorem Advances.eq_of_same_rank {journal : List Entry} (h : Advances journal) {x y : Entry}
    (hx : x ∈ journal) (hy : y ∈ journal) (hid : x.action.id = y.action.id)
    (hrank : x.action.state.value.rank = y.action.state.value.rank) : x = y := by
  obtain ⟨i, hi, rfl⟩ := List.mem_iff_getElem.1 hx
  obtain ⟨j, hj, rfl⟩ := List.mem_iff_getElem.1 hy
  have hlater := List.pairwise_iff_getElem.1 h
  rcases Nat.lt_trichotomy i j with hlt | rfl | hgt
  · have := hlater i j hi hj hlt hid
    omega
  · rfl
  · have := hlater j i hj hi hgt hid.symm
    omega

/-- A journal accounts for what is stored. -/
structure Booked (actions : ActionStore) (journal : List Entry) : Prop where
  keyed : actions.Keyed
  lived : ∀ a, Recorded journal a → a.WellLived
  recorded : ∀ id a, actions.get? id = some a → Recorded journal a
  /-- A stored action is the latest version of it. -/
  latest : ∀ id a b, actions.get? id = some a → Recorded journal b → b.id = id → b.Older a
  advances : Advances journal

theorem booked_empty : Booked ∅ [] where
  keyed := ActionStore.keyed_empty
  lived := fun a ha => absurd ha (not_recorded_nil a)
  recorded := by
    intro id a h
    simp at h
  latest := by
    intro id a b h
    simp at h
  advances := List.Pairwise.nil

namespace Booked

variable {actions actions' : ActionStore} {journal : List Entry} {a b : Action} {i : Nat}

/-- The journal goes on with a version that is later than all versions of the same action. -/
theorem write (h : Booked actions journal) (i : Nat) (ha : a.WellLived)
    (hlater : ∀ b, Recorded journal b → b.id = a.id →
      b.Older a ∧ b.state.value.rank < a.state.value.rank) :
    Booked (actions.insert a.id a) (journal ++ [⟨i, a⟩]) where
  keyed := h.keyed.insert a
  lived := by
    intro b hb
    rcases recorded_append_singleton.1 hb with hold | rfl
    · exact h.lived b hold
    · exact ha
  recorded := by
    intro id b hb
    rw [recorded_append_singleton]
    rw [Dict.get?_insert] at hb
    split at hb
    · simp only [Option.some.injEq] at hb
      exact .inr hb.symm
    · exact .inl (h.recorded id b hb)
  latest := by
    intro id b c hb hc hid
    rw [Dict.get?_insert] at hb
    split at hb
    · next heq =>
      simp only [Option.some.injEq] at hb
      subst hb
      rcases recorded_append_singleton.1 hc with hold | rfl
      · exact (hlater c hold (hid.trans heq)).1
      · exact .refl c
    · next hne =>
      rcases recorded_append_singleton.1 hc with hold | rfl
      · exact h.latest id b c hb hold hid
      · exact absurd hid.symm hne
  advances := by
    refine List.pairwise_append.2 ⟨h.advances, List.pairwise_singleton _ _, ?_⟩
    intro x hx y hy heq
    obtain rfl := List.mem_singleton.1 hy
    exact (hlater x.action ⟨x.task, hx⟩ heq).2

theorem enter (h : Booked actions journal) (i : Nat) (ha : a.WellLived)
    (hnew : ∀ b, Recorded journal b → b.id ≠ a.id) :
    Booked (actions.insert a.id a) (journal ++ [⟨i, a⟩]) :=
  h.write i ha fun b hb hid => absurd hid (hnew b hb)

theorem advance (h : Booked actions journal) (i : Nat) (ha : a.WellLived)
    (hb : actions.get? a.id = some b) (hbetween : b.Older a)
    (hrank : b.state.value.rank < a.state.value.rank) :
    Booked (actions.insert a.id a) (journal ++ [⟨i, a⟩]) := by
  refine h.write i ha fun c hc hid => ?_
  have hcb : c.Older b := h.latest a.id b c hb hc hid
  have hle := hcb.rank_le (h.lived c hc) (h.lived b (h.recorded _ _ hb))
  exact ⟨hcb.trans hbetween, by omega⟩

theorem filter (h : Booked actions journal) (p : String → Action → Bool) :
    Booked (actions.filter p) journal where
  keyed := h.keyed.filter p
  lived := h.lived
  recorded := by
    intro id a ha
    rw [Dict.get?_filter, Option.filter_eq_some_iff] at ha
    exact h.recorded id a ha.1
  latest := by
    intro id a b ha
    rw [Dict.get?_filter, Option.filter_eq_some_iff] at ha
    exact h.latest id a b ha.1
  advances := h.advances

/-- A stored action that is in the state of a copy is that copy. -/
theorem eq_of_same_state (h : Booked actions journal) (ha : Recorded journal a)
    (hb : actions.get? a.id = some b) (hvalue : b.state.value = a.state.value) : b = a := by
  have hb' := h.recorded a.id b hb
  exact ((h.latest a.id b a hb ha rfl).eq (h.lived a ha) (h.lived b hb') hvalue.symm).symm

/-- An action has one version that has finished. -/
theorem eq_of_finished (h : Booked actions journal) (ha : Recorded journal a)
    (hb : Recorded journal b) (hid : a.id = b.id) (hafinished : a.hasFinished = true)
    (hbfinished : b.hasFinished = true) : a = b := by
  obtain ⟨i, hi⟩ := ha
  obtain ⟨j, hj⟩ := hb
  refine congrArg Entry.action (h.advances.eq_of_same_rank hi hj hid ?_)
  rw [ActionState.rank_eq_three.2 hafinished, ActionState.rank_eq_three.2 hbfinished]

theorem claim (h : Booked actions journal) (ha : Recorded journal a) {taken : Action}
    {now : Timestamp} (hclaim : Broker.claim actions a now = .ok (taken, actions')) :
    actions.get? a.id = some a ∧ a.state.value = .new ∧
      taken = a.entered ⟨.pending, now⟩ a.history a.result ∧
      actions' = actions.insert taken.id taken := by
  obtain ⟨hnew, b, hb, hvalue, htaken, hactions⟩ := Broker.claim_eq_ok.1 hclaim
  obtain rfl := h.eq_of_same_state ha hb (hvalue.trans hnew.symm)
  refine ⟨hb, hnew, htaken, ?_⟩
  rw [hactions, htaken]
  rfl

theorem settle (h : Booked actions journal) (ha : Recorded journal a) {pack : Pack} {r : Event}
    {completed : Action} {now : Timestamp}
    (hsettle : Broker.settle actions pack a r now = .ok (some completed, actions')) :
    actions.get? a.id = some a ∧ a.state.value = .pending ∧
      completed = a.entered ⟨Action.outcome r, now⟩ a.history (some r) ∧
      actions' = actions.insert completed.id completed := by
  obtain ⟨-, hpending, b, hb, hvalue, hcompleted, hactions⟩ := Broker.settle_eq_ok_some.1 hsettle
  obtain rfl := h.eq_of_same_state ha hb (hvalue.trans hpending.symm)
  refine ⟨hb, hpending, hcompleted, ?_⟩
  rw [hactions, hcompleted]
  rfl

theorem claimed (h : Booked actions journal) (i : Nat) (ha : Recorded journal a) {taken : Action}
    {now : Timestamp} (hclaim : Broker.claim actions a now = .ok (taken, actions')) :
    Booked actions' (journal ++ [⟨i, taken⟩]) := by
  obtain ⟨hstored, hnew, rfl, rfl⟩ := h.claim ha hclaim
  refine h.advance i ((h.lived a ha).take hnew now) hstored
    (Action.older_entered _ _ fun _ => rfl) ?_
  simp [hnew, ActionState.rank]

theorem settled (h : Booked actions journal) (i : Nat) (ha : Recorded journal a) {pack : Pack}
    {r : Event} {completed : Action} {now : Timestamp}
    (hsettle : Broker.settle actions pack a r now = .ok (some completed, actions')) :
    Booked actions' (journal ++ [⟨i, completed⟩]) := by
  obtain ⟨hstored, hpending, rfl, rfl⟩ := h.settle ha hsettle
  have hnone : a.result = none := (h.lived a ha).result_eq_none (by rw [hpending]; rfl)
  refine h.advance i ((h.lived a ha).complete hpending r now) hstored
    (Action.older_entered _ _ fun hsome => by simp [hnone] at hsome) ?_
  rw [hpending, Action.state_entered, ActionState.rank_eq_three.2 (Action.outcome_isTerminal r)]
  decide

end Booked

end Floor

end Orchestrator
