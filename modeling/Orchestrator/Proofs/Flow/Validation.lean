import Mathlib.Data.List.Nodup
import Orchestrator.Flow.Validation
import Orchestrator.Proofs.Dict
import Orchestrator.Store.Flow

/-!
Validation accepts exactly the flows that are valid, in whatever order their steps stand. The store of
flows keeps to it: every flow in it was given to it at some time, and differs from what was given by
its version alone.
-/

namespace Orchestrator

/-- A step says what it is called, what it waits for and what it commands. -/
structure Step.Filled (s : Step) : Prop where
  named : ∃ c ∈ s.id.toList, Text.isBlank c = false
  waits : s.event.packName ≠ "" ∧ s.event.name ≠ ""
  commands : s.command.packName ≠ "" ∧ s.command.name ≠ ""

theorem Text.isBlankText_eq_false {s : String} :
    isBlankText s = false ↔ ∃ c ∈ s.toList, isBlank c = false := by
  simp [isBlankText]

theorem Step.filled_iff {s : Step} :
    s.Filled ↔ Text.isBlankText s.id = false ∧
      ¬ (s.event.packName = "" ∨ s.event.name = "") ∧
      ¬ (s.command.packName = "" ∨ s.command.name = "") := by
  rw [Text.isBlankText_eq_false, not_or, not_or]
  exact ⟨fun h => ⟨h.named, h.waits, h.commands⟩, fun ⟨hn, hw, hc⟩ => ⟨hn, hw, hc⟩⟩

namespace FlowDefinition

variable {f : FlowDefinition}

/-- What a flow has to satisfy to be stored. A step may depend on any step of the flow, be it before
it, after it or the step itself. -/
structure Valid (f : FlowDefinition) : Prop where
  named : ∃ c ∈ f.name.toList, Text.isBlank c = false
  nonempty : f.steps ≠ []
  filled : ∀ s ∈ f.steps, s.Filled
  distinct : f.steps.Pairwise fun s t => s.id ≠ t.id
  known : ∀ s ∈ f.steps, ∀ id ∈ s.dependsOn, ∃ t ∈ f.steps, t.id = id
  entry : ∃ s ∈ f.steps, s.dependsOn = []

theorem stepFlaw?_eq_none {earlier : List String} {s : Step} :
    f.stepFlaw? earlier s = none ↔ s.Filled ∧ s.id ∉ earlier := by
  rw [Step.filled_iff]
  unfold stepFlaw?
  cases hblank : Text.isBlankText s.id with
  | true => simp
  | false =>
      by_cases hused : s.id ∈ earlier
      · simp [hused]
      · by_cases hwaits : s.event.packName = "" ∨ s.event.name = ""
        · simp [hused, hwaits]
        · by_cases hcommands : s.command.packName = "" ∨ s.command.name = ""
          · simp [hused, hwaits, hcommands]
          · simp [hused, hwaits, hcommands]

/-- The steps are looked at one after the other, each against the identifiers of those before it. -/
theorem stepsFlaw?_eq_none {earlier : List String} {steps : List Step} :
    f.stepsFlaw? earlier steps = none ↔
      (∀ s ∈ steps, s.Filled ∧ s.id ∉ earlier) ∧ steps.Pairwise fun s t => s.id ≠ t.id := by
  induction steps generalizing earlier with
  | nil => simp [stepsFlaw?]
  | cons s rest ih =>
      rw [stepsFlaw?, Option.or_eq_none_iff, stepFlaw?_eq_none, ih, List.pairwise_cons,
        List.forall_mem_cons]
      constructor
      · rintro ⟨hfirst, hrest, hdistinct⟩
        refine ⟨⟨hfirst, fun t ht => ⟨(hrest t ht).1, ?_⟩⟩, fun t ht heq => ?_, hdistinct⟩
        · exact fun hmem => (hrest t ht).2 (List.mem_cons_of_mem _ hmem)
        · exact (hrest t ht).2 (heq ▸ List.mem_cons_self)
      · rintro ⟨⟨hfirst, hrest⟩, hother, hdistinct⟩
        refine ⟨hfirst, fun t ht => ⟨(hrest t ht).1, fun hmem => ?_⟩, hdistinct⟩
        rcases List.mem_cons.1 hmem with heq | hearlier
        · exact hother t ht heq.symm
        · exact (hrest t ht).2 hearlier

theorem dependencyFlaw?_eq_none {s : Step} :
    f.dependencyFlaw? s = none ↔ ∀ id ∈ s.dependsOn, ∃ t ∈ f.steps, t.id = id := by
  simp [dependencyFlaw?, stepIds]

theorem flaw?_eq_none : f.flaw? = none ↔ f.Valid := by
  unfold flaw?
  constructor
  · intro h
    split at h
    · cases h
    next hname =>
    split at h
    · cases h
    next hsteps =>
    rw [Option.or_eq_none_iff, Option.or_eq_none_iff, stepsFlaw?_eq_none] at h
    obtain ⟨⟨hfilled, hdistinct⟩, hknown, hentry⟩ := h
    split at hentry
    next hany =>
      exact {
        named := Text.isBlankText_eq_false.1 (by simpa using hname)
        nonempty := by simpa using hsteps
        filled := fun s hs => (hfilled s hs).1
        distinct := hdistinct
        known := fun s hs => dependencyFlaw?_eq_none.1 (List.findSome?_eq_none_iff.1 hknown s hs)
        entry := by simpa [Step.isEntry] using hany }
    · cases hentry
  · intro h
    have hname : Text.isBlankText f.name = false := Text.isBlankText_eq_false.2 h.named
    have hsteps : f.stepsFlaw? [] f.steps = none :=
      stepsFlaw?_eq_none.2 ⟨fun s hs => ⟨h.filled s hs, List.not_mem_nil⟩, h.distinct⟩
    have hknown : f.steps.findSome? f.dependencyFlaw? = none :=
      List.findSome?_eq_none_iff.2 fun s hs => dependencyFlaw?_eq_none.2 (h.known s hs)
    have hentry : f.steps.any Step.isEntry = true := by simpa [Step.isEntry] using h.entry
    simp [hname, h.nonempty, hsteps, hknown, hentry]

theorem validate_eq_ok : f.validate = .ok () ↔ f.Valid := by
  rw [← flaw?_eq_none]
  unfold validate
  cases f.flaw? <;> simp

theorem validate_eq_error {e : Error} :
    f.validate = .error e ↔ ∃ reason, f.flaw? = some reason ∧ e = .invalidInput reason := by
  unfold validate
  cases f.flaw? <;> simp [eq_comm]

/-- The steps of a valid flow have distinct identifiers. -/
theorem stepIds_nodup_of_validate (h : f.validate = .ok ()) : f.stepIds.Nodup :=
  List.pairwise_map.2 (validate_eq_ok.1 h).distinct

theorem name_ne_empty_of_validate (h : f.validate = .ok ()) : f.name ≠ "" := by
  intro hempty
  simpa [hempty] using (validate_eq_ok.1 h).named

/-- The steps of a valid flow have identifiers that are not blank. -/
theorem stepId_ne_empty_of_validate (h : f.validate = .ok ()) {s : Step} (hs : s ∈ f.steps) :
    s.id ≠ "" := by
  intro hempty
  simpa [hempty] using ((validate_eq_ok.1 h).filled s hs).named

theorem Valid.perm (h : f.Valid) {steps : List Step} (hperm : f.steps.Perm steps) :
    { f with steps }.Valid where
  named := h.named
  nonempty := by
    rintro rfl
    exact h.nonempty hperm.eq_nil
  filled := fun s hs => h.filled s (hperm.mem_iff.2 hs)
  distinct := (hperm.pairwise_iff fun hne => Ne.symm hne).1 h.distinct
  known := by
    intro s hs id hid
    obtain ⟨t, ht, rfl⟩ := h.known s (hperm.mem_iff.2 hs) id hid
    exact ⟨t, hperm.mem_iff.1 ht, rfl⟩
  entry := by
    obtain ⟨s, hs, hnone⟩ := h.entry
    exact ⟨s, hperm.mem_iff.1 hs, hnone⟩

/-- A flow is accepted exactly if it is valid, and refused as invalid input otherwise. The order of
its steps does not matter. -/
theorem validate_exact (f : FlowDefinition) :
    (f.validate = .ok () ↔ f.Valid) ∧
    ((∃ reason, f.validate = .error (.invalidInput reason)) ↔ ¬ f.Valid) ∧
    ∀ steps, f.steps.Perm steps → ({ f with steps }.validate = .ok () ↔ f.validate = .ok ()) := by
  refine ⟨validate_eq_ok, ?_, fun steps hperm => ?_⟩
  · rw [← flaw?_eq_none, ← ne_eq, Option.ne_none_iff_exists']
    simp only [validate_eq_error, Error.invalidInput.injEq, exists_eq_right']
  · rw [validate_eq_ok, validate_eq_ok]
    exact ⟨fun h => h.perm hperm.symm, fun h => h.perm hperm⟩

/-- The blanket comes first, although it stands last; the toast may even follow itself. -/
def picnic : FlowDefinition :=
  let step (id : String) (dependsOn : List String) : Step :=
    ⟨id, dependsOn, ⟨"hall", "morning", ∅⟩, "", ∅, ⟨"kitchen", id, ∅, .null⟩⟩
  ⟨"picnic", none, "",
    [step "toast" ["tea", "toast"], step "tea" ["toast", "blanket"], step "blanket" []]⟩

theorem picnic_in_any_order :
    picnic.steps.Perm picnic.steps.reverse ∧ picnic.validate = .ok () ∧
      { picnic with steps := picnic.steps.reverse }.validate = .ok () := by
  have hperm : picnic.steps.Perm picnic.steps.reverse := (List.reverse_perm _).symm
  have hvalid : picnic.validate = .ok () := by decide +kernel
  exact ⟨hperm, hvalid, ((validate_exact picnic).2.2 _ hperm).2 hvalid⟩

theorem stepsFlaw?_version (f : FlowDefinition) (uuid : Option Uuid) (earlier : List String)
    (steps : List Step) :
    { f with uuid }.stepsFlaw? earlier steps = f.stepsFlaw? earlier steps := by
  induction steps generalizing earlier with
  | nil => rfl
  | cons s rest ih =>
      simp only [stepsFlaw?, ih]
      rfl

/-- Validation does not look at the version. -/
theorem validate_version (f : FlowDefinition) (uuid : Option Uuid) :
    { f with uuid }.validate = f.validate := by
  simp only [validate, flaw?, stepsFlaw?_version]
  rfl

/-- No other step of the flow has the identifier of a step. -/
theorem filter_id_of_mem (hnodup : f.stepIds.Nodup) {step : Step} (hstep : step ∈ f.steps) :
    f.steps.filter (fun s => s.id == step.id) = [step] := by
  obtain ⟨before, after, hsteps⟩ := List.append_of_mem hstep
  rw [stepIds, hsteps, List.map_append, List.map_cons, List.nodup_middle, List.nodup_cons,
    ← List.map_append] at hnodup
  have hothers : (before ++ after).filter (fun s => s.id == step.id) = [] := by
    refine List.filter_eq_nil_iff.2 fun s hs heq => hnodup.1 ?_
    exact List.mem_map.2 ⟨s, hs, beq_iff_eq.1 heq⟩
  rw [List.filter_append, List.append_eq_nil_iff] at hothers
  rw [hsteps, List.filter_append, hothers.1, List.filter_cons, hothers.2]
  simp

theorem step?_of_mem (hnodup : f.stepIds.Nodup) {step : Step} (hstep : step ∈ f.steps) :
    f.step? step.id = some step := by
  unfold step?
  cases hfind : f.steps.find? (·.id == step.id) with
  | none =>
      have hno := List.find?_eq_none.1 hfind step hstep
      simp at hno
  | some other =>
      have hid : other.id = step.id := by simpa using List.find?_some hfind
      rw [List.inj_on_of_nodup_map hnodup (List.mem_of_find?_eq_some hfind) hstep hid]

end FlowDefinition

namespace FlowStore

/-- A definition is in the store, as the latest under its name or as an earlier one. -/
def Knows (s : FlowStore) (f : FlowDefinition) : Prop := f ∈ s.latest.values ∨ f ∈ s.history

theorem knows_of_mem_findByEvent {s : FlowStore} {event : Event} {f : FlowDefinition}
    (h : f ∈ s.findByEvent event) : s.Knows f :=
  .inl (List.mem_filter.1 h).1

theorem knows_of_getByUuid? {s : FlowStore} {uuid : Uuid} {f : FlowDefinition}
    (h : s.getByUuid? uuid = some f) : s.Knows f :=
  .inr (List.mem_of_find?_eq_some h)

theorem Knows.add {s : FlowStore} {flow f : FlowDefinition} {uuid : Uuid}
    (h : (s.add flow uuid).2.Knows f) : s.Knows f ∨ f = (s.add flow uuid).1 := by
  rcases h with hlatest | hhistory
  · obtain ⟨key, hkey⟩ := Dict.mem_values.1 hlatest
    rw [FlowStore.add, Dict.get?_insert] at hkey
    split at hkey
    · exact .inr (Option.some.inj hkey).symm
    · exact .inl (.inl (Dict.mem_values.2 ⟨key, hkey⟩))
  · rcases List.mem_cons.1 hhistory with rfl | hold
    · exact .inr rfl
    · exact .inl (.inr hold)

theorem Knows.remove {s : FlowStore} {name : String} {f : FlowDefinition}
    (h : (s.remove name).2.Knows f) : s.Knows f := by
  rcases h with hlatest | hhistory
  · obtain ⟨key, hkey⟩ := Dict.mem_values.1 hlatest
    exact .inl (Dict.mem_values.2 ⟨key, Dict.get?_of_get?_erase hkey⟩)
  · exact .inr hhistory

end FlowStore

end Orchestrator
