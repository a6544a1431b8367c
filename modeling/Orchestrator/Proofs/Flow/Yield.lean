import Orchestrator.Hub
import Orchestrator.Proofs.Dispatch
import Orchestrator.Proofs.Evaluation

/-!
What a flow yields when an event starts a run of it. Apart from identifiers and times this depends on
the flow, on the event and on what the flow's own templates come to. It does not depend on the run, on
the store or on other flows, and there is nothing to it if the event does not enter the flow.
-/

namespace Orchestrator

/-! ## The templates of a step -/

/-- The templates that are rendered when a step is evaluated. -/
def Step.sources (step : Step) : List String :=
  step.context.values ++ step.event.packLabels.values ++ [step.criteria] ++
    step.command.packLabels.values ++ step.command.input.texts

/-- Two renderers make the same of some templates. -/
def Renderer.AgreeOn (r r' : Renderer) (sources : List String) : Prop :=
  ∀ source ∈ sources, ∀ document, r source document = r' source document

namespace Renderer

variable {r r' : Renderer} {sources : List String}

theorem AgreeOn.mono (h : r.AgreeOn r' sources) {fewer : List String}
    (hsub : ∀ source ∈ fewer, source ∈ sources) : r.AgreeOn r' fewer :=
  fun source hsource => h source (hsub source hsource)

theorem AgreeOn.left {more : List String} (h : r.AgreeOn r' (sources ++ more)) :
    r.AgreeOn r' sources :=
  h.mono fun _ hsource => List.mem_append_left _ hsource

theorem AgreeOn.right {more : List String} (h : r.AgreeOn r' (more ++ sources)) :
    r.AgreeOn r' sources :=
  h.mono fun _ hsource => List.mem_append_right _ hsource

mutual

theorem resolve_congr (document : Json) : ∀ item : Json, r.AgreeOn r' item.texts →
    r.resolve document item = r'.resolve document item
  | .str source, h => by
      have hsame : r source document = r' source document :=
        h source (by simp [Json.texts]) document
      simp only [resolve, hsame]
  | .arr items, h => by
      simp only [resolve, resolveItems_congr document items h]
  | .obj entries, h => by
      simp only [resolve, resolveEntries_congr document entries h]
  | .null, _ | .bool _, _ | .num _, _ => by simp only [resolve]

theorem resolveItems_congr (document : Json) : ∀ items : List Json,
    r.AgreeOn r' (Json.textsOfItems items) →
      r.resolveItems document items = r'.resolveItems document items
  | [], _ => rfl
  | item :: rest, h => by
      simp only [resolveItems, resolve_congr document item h.left,
        resolveItems_congr document rest h.right]

theorem resolveEntries_congr (document : Json) : ∀ entries : List (String × Json),
    r.AgreeOn r' (Json.textsOfEntries entries) →
      r.resolveEntries document entries = r'.resolveEntries document entries
  | [], _ => rfl
  | (_, item) :: rest, h => by
      simp only [resolveEntries, resolve_congr document item h.left,
        resolveEntries_congr document rest h.right]

end

theorem resolveTexts_congr (document : Json) {entries : List (String × String)}
    (h : r.AgreeOn r' (entries.map Prod.snd)) :
    r.resolveTexts document entries = r'.resolveTexts document entries := by
  induction entries with
  | nil => rfl
  | cons head rest ih =>
      have hsame : r head.2 document = r' head.2 document := h head.2 (by simp) document
      simp only [resolveTexts, hsame, ih (h.mono fun _ => List.mem_cons_of_mem _)]

theorem resolveMap_congr (document : Json) {d : Dict String} (h : r.AgreeOn r' d.values) :
    r.resolveMap document d = r'.resolveMap document d := by
  have htexts : r.resolveTexts document d.toList = r'.resolveTexts document d.toList :=
    resolveTexts_congr document h
  simp only [resolveMap, htexts]

end Renderer

/-- A step's evaluation depends on what the renderer makes of the step's own templates. -/
theorem Step.evaluate_congr {r r' : Renderer} {step : Step} (h : r.AgreeOn r' step.sources)
    (event : Event) (parent : Context) (stamp : Stamp) :
    step.evaluate r event parent stamp = step.evaluate r' event parent stamp := by
  have hcontext : r.AgreeOn r' step.context.values := h.left.left.left.left
  have hlabels : r.AgreeOn r' step.event.packLabels.values := h.left.left.left.right
  have hcriteria : r.AgreeOn r' [step.criteria] := h.left.left.right
  have hcommand : r.AgreeOn r' step.command.packLabels.values := h.left.right
  have hinput : r.AgreeOn r' step.command.input.texts := h.right
  have hmeets : ∀ document, step.meetsCriteria r document = step.meetsCriteria r' document := by
    intro document
    have hsame : r step.criteria document = r' step.criteria document :=
      hcriteria step.criteria (by simp) document
    simp only [meetsCriteria, Renderer.resolveBool, hsame]
  have hparts : ∀ document, step.commandParts r document = step.commandParts r' document := by
    intro document
    simp only [commandParts, Renderer.resolveMap_congr document hcommand,
      Renderer.resolve_congr document _ hinput]
  simp only [evaluate, widenContext, Renderer.resolveMap_congr _ hcontext,
    Renderer.resolveMap_congr _ hlabels, hmeets, hparts]

/-! ## Yields -/

/-- An action without its identifiers and times. -/
def Action.bare (a : Action) : Action :=
  { a with
    id := ""
    correlationId := ""
    state := ⟨a.state.value, default⟩
    history := a.history.map fun record => ⟨record.value, default⟩ }

/-- What a step of a flow yields at the beginning of a run. -/
def FlowDefinition.yield? (f : FlowDefinition) (r : Renderer) (event : Event) (step : Step) :
    Option Action :=
  match step.evaluate r event ∅ default with
  | .ok (some a) => some ((FlowInstance.start f "").adopt step a).bare
  | _ => none

/-- What a flow yields when an event starts a run of it. -/
def FlowDefinition.yields (f : FlowDefinition) (r : Renderer) (mode : DependencyMode)
    (event : Event) : List Action :=
  ((FlowInstance.start f "").candidates mode event).filterMap (f.yield? r event)

/-- A new action with another identifier and another time. -/
def Action.restamp (stamp : Stamp) (a : Action) : Action :=
  { a with id := stamp.id, state := ⟨.new, stamp.time⟩, history := [⟨.new, stamp.time⟩] }

theorem Step.evaluate_restamp (r : Renderer) (step : Step) (event : Event) (parent : Context)
    (stamp : Stamp) :
    step.evaluate r event parent stamp =
      (step.evaluate r event parent default).map (Option.map (Action.restamp stamp)) := by
  unfold evaluate
  simp only [bind, Except.bind, pure, Except.pure]
  split
  · rfl
  split
  · rfl
  split
  · rfl
  split
  · rfl
  split
  · rfl
  split
  · rfl
  split
  · rfl
  · rfl

namespace FlowDefinition

variable {f : FlowDefinition} {r r' : Renderer} {event : Event} {step : Step} {stamp : Stamp}

section

variable {i : FlowInstance} (hcontext : i.context = ∅) (hagree : r'.AgreeOn r step.sources)

include hcontext hagree

/-- Whenever and in whichever new run a step is evaluated, the action is what the flow yields. -/
theorem yield?_adopt {a : Action} (hflow : i.flow = f)
    (heval : step.evaluate r' event i.context stamp = .ok (some a)) :
    f.yield? r event step = some (i.adopt step a).bare ∧ (i.adopt step a).id = stamp.id ∧
      (i.adopt step a).previous = none := by
  subst hflow
  rw [hcontext, Step.evaluate_congr hagree, Step.evaluate_restamp] at heval
  unfold yield?
  cases hfirst : step.evaluate r event ∅ default with
  | error e => simp [hfirst, Except.map] at heval
  | ok outcome =>
      cases outcome with
      | none => simp [hfirst, Except.map] at heval
      | some b =>
          simp only [hfirst, Except.map, Option.map_some, Except.ok.injEq, Option.some.injEq]
            at heval
          -- Any stamp will do here; computing the text of the one that was used takes long.
          generalize (default : Stamp) = first at hfirst
          obtain ⟨labels, input, context, rfl⟩ := Step.evaluate_eq_some hfirst
          subst heval
          exact ⟨rfl, rfl, rfl⟩

theorem yield?_eq_none
    (hnot : ∀ a, step.evaluate r' event i.context stamp ≠ .ok (some a)) :
    f.yield? r event step = none := by
  rw [hcontext] at hnot
  unfold yield?
  split
  · next a ha =>
    refine absurd ?_ (hnot (a.restamp stamp))
    rw [Step.evaluate_congr hagree, Step.evaluate_restamp, ha]
    rfl
  · rfl

end

/-- At the beginning of a run the steps are evaluated that can begin one. -/
theorem candidates_start (f : FlowDefinition) (run : String) (mode : DependencyMode)
    (event : Event) : (FlowInstance.start f run).candidates mode event =
      f.steps.filter fun step => step.isEntry && step.listensTo event := by
  refine List.filter_congr fun step _ => ?_
  have hsatisfied : mode.satisfied step (.start f run) = step.isEntry := by
    rw [Bool.eq_iff_iff, DependencyMode.satisfied_iff, Step.isEntry, List.isEmpty_iff]
    constructor
    · rintro (hnone | hmet)
      · exact hnone
      · by_contra hsome
        obtain ⟨id, hid⟩ := List.exists_mem_of_ne_nil _ hsome
        cases mode with
        | any =>
            obtain ⟨_, -, hfinished⟩ := hmet
            cases hfinished
        | all => cases hmet id hid
    · exact .inl
  have hnew : (FlowInstance.start f run).hasActionFor step.id = false := rfl
  rw [DependencyMode.isCandidate, hsatisfied, hnew, Bool.not_false, Bool.and_true, Bool.and_comm]

/-- A flow that the event does not enter yields nothing. -/
theorem yields_eq_nil (mode : DependencyMode) (h : f.isEnteredBy event = false) :
    f.yields r mode event = [] := by
  unfold isEnteredBy at h
  rw [List.any_eq_false] at h
  have hnone : (FlowInstance.start f "").candidates mode event = [] := by
    rw [candidates_start]
    exact List.filter_eq_nil_iff.2 h
  rw [yields, hnone, List.filterMap_nil]

end FlowDefinition

end Orchestrator
