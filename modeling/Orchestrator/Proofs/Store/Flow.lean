import Mathlib.Data.List.Induction
import Orchestrator.Proofs.Flow.Validation

/-!
The store of flows over any sequence of calls. A definition is found under its name and under its
identifier, and a caller may choose both, since a definition that has an identifier keeps it. The
history keeps what it has, and the latest definitions are found under their identifiers, exactly as
long as no definition is stored under an identifier that another one has.
-/

namespace Orchestrator

namespace FlowStore

theorem getByUuid?_add (s : FlowStore) (flow : FlowDefinition) (fresh u : Uuid) :
    (s.add flow fresh).2.getByUuid? u =
      if flow.uuid.getD fresh = u then some (s.add flow fresh).1 else s.getByUuid? u := by
  by_cases h : flow.uuid.getD fresh = u <;> simp [add, getByUuid?, h]

theorem get?_add (s : FlowStore) (flow : FlowDefinition) (fresh : Uuid) (name : String) :
    (s.add flow fresh).2.get? name =
      if name = flow.name then some (s.add flow fresh).1 else s.get? name :=
  Dict.get?_insert s.latest flow.name name _

theorem get?_of_get?_remove {s : FlowStore} {name key : String} {f : FlowDefinition}
    (h : (s.remove name).2.get? key = some f) : s.get? key = some f :=
  Dict.get?_of_get?_erase h

/-- A call that changes the store. -/
inductive Call where
  /-- A definition without an identifier gets the fresh one. -/
  | add (flow : FlowDefinition) (fresh : Uuid)
  | remove (name : String)

def Call.apply (s : FlowStore) : Call → FlowStore
  | .add flow fresh => (s.add flow fresh).2
  | .remove name => (s.remove name).2

/-- The store after some calls. -/
def through (calls : List Call) : FlowStore := calls.foldl Call.apply .empty

theorem through_snoc (calls : List Call) (call : Call) :
    through (calls ++ [call]) = call.apply (through calls) := by
  simp [through]

/-- The call stores a definition under an identifier that another one has. -/
def Call.Overwrites (s : FlowStore) : Call → Prop
  | .add flow fresh =>
      ∃ g, s.getByUuid? (flow.uuid.getD fresh) = some g ∧ g ≠ (s.add flow fresh).1
  | .remove _ => False

/-- The latest definitions have identifiers, and are found under them. -/
def Agrees (s : FlowStore) : Prop :=
  ∀ name f, s.get? name = some f → ∃ u, f.uuid = some u ∧ s.getByUuid? u = some f

theorem agrees_empty : empty.Agrees := by
  intro name f h
  simp [empty, get?] at h

/-! ## One call -/

section

variable {s : FlowStore} {call : Call}

theorem getByUuid?_apply (hnot : ¬ call.Overwrites s) {u : Uuid} {f : FlowDefinition}
    (hf : s.getByUuid? u = some f) : (call.apply s).getByUuid? u = some f := by
  cases call with
  | remove name => exact hf
  | add flow fresh =>
      simp only [Call.apply, getByUuid?_add]
      split
      · next heq =>
        by_contra hne
        apply hnot
        exact ⟨f, heq ▸ hf, fun h => hne (congrArg some h.symm)⟩
      · exact hf

theorem Call.Overwrites.changes (h : call.Overwrites s) :
    ∃ u f, s.getByUuid? u = some f ∧ (call.apply s).getByUuid? u ≠ some f := by
  cases call with
  | remove name => exact h.elim
  | add flow fresh =>
      obtain ⟨g, hg, hne⟩ := h
      refine ⟨_, g, hg, fun hsame => hne ?_⟩
      simp only [Call.apply, getByUuid?_add, if_true, Option.some.injEq] at hsame
      exact hsame.symm

theorem Agrees.apply (h : s.Agrees) (hnot : ¬ call.Overwrites s) : (call.apply s).Agrees := by
  cases call with
  | remove name =>
      intro key f hf
      exact h key f (get?_of_get?_remove hf)
  | add flow fresh =>
      intro key f hf
      simp only [Call.apply, get?_add] at hf
      split at hf
      · obtain rfl := Option.some.inj hf
        refine ⟨flow.uuid.getD fresh, rfl, ?_⟩
        simp only [Call.apply, getByUuid?_add, if_true]
      · obtain ⟨u, hu, hfound⟩ := h key f hf
        exact ⟨u, hu, getByUuid?_apply hnot hfound⟩

end

/-! ## Any sequence of calls -/

/-- What is found under an identifier at some moment is found under it ever after. -/
def Lasts (calls : List Call) : Prop :=
  ∀ first later rest u f, calls = first ++ later ++ rest →
    (through first).getByUuid? u = some f → (through (first ++ later)).getByUuid? u = some f

/-- Some call stores a definition under an identifier that another one has. -/
def Overwritten (calls : List Call) : Prop :=
  ∃ first call rest, calls = first ++ call :: rest ∧ call.Overwrites (through first)

theorem Overwritten.append {calls : List Call} (h : Overwritten calls) (rest : List Call) :
    Overwritten (calls ++ rest) := by
  obtain ⟨first, call, later, rfl, hover⟩ := h
  exact ⟨first, call, later ++ rest, by simp, hover⟩

theorem getByUuid?_through {first later : List Call} (hnot : ¬ Overwritten (first ++ later))
    {u : Uuid} {f : FlowDefinition} (hf : (through first).getByUuid? u = some f) :
    (through (first ++ later)).getByUuid? u = some f := by
  induction later using List.reverseRecOn with
  | nil => simpa using hf
  | append_singleton later call ih =>
      rw [← List.append_assoc] at hnot ⊢
      have hbefore : (through (first ++ later)).getByUuid? u = some f :=
        ih fun h => hnot (h.append _)
      rw [through_snoc]
      refine getByUuid?_apply ?_ hbefore
      exact fun hover => hnot ⟨first ++ later, call, [], rfl, hover⟩

theorem agrees_through {calls : List Call} (hnot : ¬ Overwritten calls) :
    (through calls).Agrees := by
  induction calls using List.reverseRecOn with
  | nil => exact agrees_empty
  | append_singleton calls call ih =>
      rw [through_snoc]
      have hbefore : (through calls).Agrees := ih fun h => hnot (h.append _)
      exact hbefore.apply fun hover => hnot ⟨calls, call, [], rfl, hover⟩

theorem Lasts.not_overwritten {calls : List Call} (h : Lasts calls) : ¬ Overwritten calls := by
  rintro ⟨first, call, rest, rfl, hover⟩
  obtain ⟨u, f, hf, hchanged⟩ := hover.changes
  apply hchanged
  rw [← through_snoc]
  exact h first [call] rest u f (by simp) hf

/-- The history only grows and the latest definitions are those of the history, at every moment,
exactly if no definition is ever stored under the identifier of another one. -/
theorem history_lasts_iff_not_overwritten (calls : List Call) :
    (Lasts calls ∧ ∀ first rest, calls = first ++ rest → (through first).Agrees) ↔
      ¬ Overwritten calls := by
  constructor
  · rintro ⟨hlasts, -⟩
    exact hlasts.not_overwritten
  · intro hnot
    constructor
    · rintro first later rest u f rfl hf
      exact getByUuid?_through (fun h => hnot (h.append rest)) hf
    · rintro first rest rfl
      exact agrees_through fun h => hnot (h.append rest)

/-- A menu that has an identifier of its own. -/
def menu (name : String) : FlowDefinition := ⟨name, some ⟨7⟩, "", []⟩

/-- A second menu under the identifier of the first takes its place in the history, while the first
is still the latest under its name. -/
theorem supper_for_dinner :
    let calls : List Call := [.add (menu "dinner") ⟨1⟩, .add (menu "supper") ⟨2⟩]
    ¬ Lasts calls ∧ ¬ (through calls).Agrees := by
  constructor
  · intro h
    have hlater := h [.add (menu "dinner") ⟨1⟩] [.add (menu "supper") ⟨2⟩] [] ⟨7⟩ (menu "dinner")
      rfl (by decide +kernel)
    revert hlater
    decide +kernel
  · intro h
    obtain ⟨u, hu, hfound⟩ := h "dinner" (menu "dinner") (by decide +kernel)
    obtain rfl : u = ⟨7⟩ := (Option.some.inj hu).symm
    revert hfound
    decide +kernel

/-! ## Versions of valid flows -/

/-- Every definition in the store is valid and is found under an identifier of its own. -/
structure Versioned (s : FlowStore) : Prop where
  agrees : s.Agrees
  found : ∀ f ∈ s.history, ∃ u, f.uuid = some u ∧ s.getByUuid? u = some f
  valid : ∀ f ∈ s.history, f.validate = .ok ()

namespace Versioned

variable {s : FlowStore}

theorem empty : FlowStore.empty.Versioned where
  agrees := agrees_empty
  found := fun f hf => by cases hf
  valid := fun f hf => by cases hf

theorem mem_history (h : s.Versioned) {f : FlowDefinition} (hf : s.Knows f) : f ∈ s.history := by
  rcases hf with hlatest | hhistory
  · obtain ⟨name, hname⟩ := Dict.mem_values.1 hlatest
    obtain ⟨u, -, hfound⟩ := h.agrees name f hname
    exact List.mem_of_find?_eq_some hfound
  · exact hhistory

/-- A flow that is registered becomes a new version. -/
theorem add (h : s.Versioned) {flow : FlowDefinition} {fresh : Uuid}
    (hvalid : flow.validate = .ok ()) (hfresh : ∀ f ∈ s.history, f.uuid ≠ some fresh) :
    (s.add { flow with uuid := none } fresh).2.Versioned where
  agrees := by
    have hnot : ¬ (Call.add { flow with uuid := none } fresh).Overwrites s := by
      rintro ⟨g, hg, -⟩
      have hsame : g.uuid = some fresh := by simpa using List.find?_some hg
      exact hfresh g (List.mem_of_find?_eq_some hg) hsame
    exact h.agrees.apply hnot
  found := by
    intro f hf
    rcases List.mem_cons.1 hf with rfl | hold
    · exact ⟨fresh, rfl, by rw [getByUuid?_add]; exact if_pos rfl⟩
    · obtain ⟨u, hu, hfound⟩ := h.found f hold
      have hne : fresh ≠ u := fun heq => hfresh f hold (heq ▸ hu)
      exact ⟨u, hu, by rw [getByUuid?_add]; exact (if_neg hne).trans hfound⟩
  valid := by
    intro f hf
    rcases List.mem_cons.1 hf with rfl | hold
    · exact (FlowDefinition.validate_version flow _).trans hvalid
    · exact h.valid f hold

theorem remove (h : s.Versioned) (name : String) : (s.remove name).2.Versioned where
  agrees := fun key f hf => h.agrees key f (get?_of_get?_remove hf)
  found := h.found
  valid := h.valid

end Versioned

end FlowStore

end Orchestrator
