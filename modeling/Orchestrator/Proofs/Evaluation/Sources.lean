import Orchestrator.Proofs.Flow.Yield

/-!
Which texts are rendered as templates when a step is evaluated. They are the step's own: what comes
from the event, from the context of the run or out of another template is only ever a part of the
document that templates are rendered against, whatever it looks like.
-/

namespace Orchestrator

/-- An action without its identifier and its times. -/
def Action.unstamped (a : Action) : Action :=
  { a with
    id := ""
    state := ⟨a.state.value, default⟩
    history := a.history.map fun record => ⟨record.value, default⟩ }

namespace Renderer

/-- A renderer that knows some templates only, and refuses every other text. -/
def confinedTo (r : Renderer) (sources : List String) : Renderer := fun source document =>
  if source ∈ sources then r source document else .error (.render source .templateNotFound)

theorem agreeOn_confinedTo (r : Renderer) (sources : List String) :
    (r.confinedTo sources).AgreeOn r sources := by
  intro source hsource document
  exact if_pos hsource

theorem AgreeOn.confinedTo_eq {r r' : Renderer} {sources : List String}
    (h : r.AgreeOn r' sources) : r.confinedTo sources = r'.confinedTo sources := by
  funext source document
  unfold confinedTo
  split
  · next hsource => exact h source hsource document
  · rfl

end Renderer

namespace Step

/-- A step is evaluated alike if every text but its own templates is refused. -/
theorem evaluate_confinedTo (r : Renderer) (step : Step) (event : Event) (parent : Context)
    (stamp : Stamp) :
    step.evaluate (r.confinedTo step.sources) event parent stamp =
      step.evaluate r event parent stamp :=
  evaluate_congr (r.agreeOn_confinedTo step.sources) event parent stamp

/-- The identifier and the time are only passed on to the action. -/
theorem evaluate_unstamped (r : Renderer) (step : Step) (event : Event) (parent : Context)
    (stamp stamp' : Stamp) :
    (step.evaluate r event parent stamp).map (Option.map Action.unstamped) =
      (step.evaluate r event parent stamp').map (Option.map Action.unstamped) := by
  rw [evaluate_restamp r step event parent stamp, evaluate_restamp r step event parent stamp']
  cases step.evaluate r event parent default with
  | error e => rfl
  | ok outcome => cases outcome <;> rfl

/-- Renderers that make the same of the step's own templates give the same outcome, whatever they
make of texts in the event, in the context and in what templates come to. -/
theorem evaluate_data_unrendered {r r' : Renderer} {step : Step} (h : r.AgreeOn r' step.sources)
    (event : Event) (parent : Context) (stamp stamp' : Stamp) :
    (step.evaluate r event parent stamp).map (Option.map Action.unstamped) =
      (step.evaluate r' event parent stamp').map (Option.map Action.unstamped) := by
  have hsame : step.evaluate r event parent stamp' = step.evaluate r' event parent stamp' := by
    rw [← evaluate_confinedTo r, h.confinedTo_eq, evaluate_confinedTo]
  rw [evaluate_unstamped r step event parent stamp stamp', hsame]

/-- Passes on what an event says. -/
def relay : Step where
  id := "relay"
  dependsOn := []
  event := ⟨"hall", "order", ∅⟩
  criteria := ""
  context := .insert ∅ "order" "{{ Event.Payload }}"
  command := ⟨"kitchen", "note", ∅, .str "{{ Context.order }}"⟩

/-- An event that says what looks like a template. -/
def scribble : Event :=
  { (default : Event) with
    name := "order"
    pack := { (default : PackRef) with name := "hall" }
    payload := .str "{{ Context.recipe }}" }

/-- The template renderer, but it makes something else of the text in the event. -/
def forger : Renderer := fun source document =>
  if source = "{{ Context.recipe }}" then .ok "forged" else templateRenderer ∅ 0 source document

/-- The text reaches the input as it is, by way of the context, although the context has a recipe
and the two renderers would make different things of it. -/
theorem scribble_passed_on :
    let recipes : Context := .insert ∅ "recipe" "saffron"
    let outcome := relay.evaluate (templateRenderer ∅ 0) scribble recipes default
    templateRenderer ∅ 0 "{{ Context.recipe }}" (templateDocument scribble recipes) =
        .ok "saffron" ∧
      (outcome.map (Option.map Action.input)) = .ok (some (.str "{{ Context.recipe }}")) ∧
      (templateRenderer ∅ 0).AgreeOn forger relay.sources ∧
      outcome.map (Option.map Action.unstamped) =
        (relay.evaluate forger scribble recipes default).map (Option.map Action.unstamped) := by
  have hagree : (templateRenderer ∅ 0).AgreeOn forger relay.sources := by
    intro source hsource document
    have hother : source ≠ "{{ Context.recipe }}" := by
      rintro rfl
      exact absurd hsource (by decide +kernel)
    exact (if_neg hother).symm
  exact ⟨by decide +kernel, by decide +kernel, hagree, evaluate_data_unrendered hagree _ _ _ _⟩

end Step

end Orchestrator
