import Orchestrator.Evaluation
import Orchestrator.Proofs.Resolve

/-!
The evaluation of a step, stage by stage. Every stage lets the event pass, lets it go or fails, and
what it does counts only if all stages before it let the event pass. So a template that cannot be
rendered goes unnoticed where an earlier stage has let the event go. An action that a step gives
carries the step's command, rendered, is as new as its stamp, and has the context that the step was
evaluated in, as the step widens it.
-/

namespace Orchestrator

/-- The stages that come before a stage. -/
def Stage.before : Stage → List Stage
  | .context => []
  | .labels => [.context]
  | .criteria => [.context, .labels]
  | .command => [.context, .labels, .criteria]

/-! ## Truth values -/

theorem truthOf?_eq_some {s : String} {b : Bool} :
    truthOf? s = some b ↔ (Text.trim s, b) ∈ truthWords := by
  constructor
  · intro h
    obtain ⟨before, after, hwords, -⟩ := List.lookup_eq_some_iff.1 h
    rw [hwords]
    exact List.mem_append_right _ List.mem_cons_self
  · intro h
    have hdistinct : ∀ entry ∈ truthWords, truthWords.lookup entry.1 = some entry.2 := by decide
    exact hdistinct _ h

namespace Renderer

variable {r : Renderer} {document : Json} {source : String}

/-- A template comes to a spelling of a truth value, blanks around it aside. -/
def Spells (r : Renderer) (document : Json) (source : String) (b : Bool) : Prop :=
  ∃ rendered, r source document = .ok rendered ∧ (Text.trim rendered, b) ∈ truthWords

/-- Why a template gives no truth value: it cannot be rendered, or what it comes to is no spelling of
one. -/
def Misspells (r : Renderer) (document : Json) (source : String) (cause : ResolveError) : Prop :=
  r source document = .error cause ∨
    ∃ rendered, r source document = .ok rendered ∧ (∀ b, (Text.trim rendered, b) ∉ truthWords) ∧
      cause = .notBoolean source rendered

theorem resolveBool_eq_ok {b : Bool} :
    r.resolveBool document source = .ok b ↔ r.Spells document source b := by
  simp only [resolveBool, bind_eq_ok, Spells, ← truthOf?_eq_some]
  refine exists_congr fun rendered => and_congr_right fun _ => ?_
  cases truthOf? rendered <;> simp [pure_eq_ok, throw, throwThe, MonadExceptOf.throw]

theorem resolveBool_eq_error {cause : ResolveError} :
    r.resolveBool document source = .error cause ↔ r.Misspells document source cause := by
  simp only [resolveBool, bind_eq_error, Misspells, ← truthOf?_eq_some]
  refine or_congr_right (exists_congr fun rendered => and_congr_right fun _ => ?_)
  cases truthOf? rendered <;>
    simp [pure, Except.pure, throw, throwThe, MonadExceptOf.throw, eq_comm]

theorem exists_misspells :
    (∃ cause, r.Misspells document source cause) ↔ ∀ b, ¬ r.Spells document source b := by
  simp only [← resolveBool_eq_error, ← resolveBool_eq_ok]
  rw [← not_exists, exists_ok_iff, not_not]

end Renderer

namespace Step

/-! ## The context of a step -/

/-- What a step makes of a context. A key that it sets has what its template comes to against the
event and the context as it was, and the others stay as they are. -/
structure Widens (r : Renderer) (step : Step) (event : Event) (parent context : Context) :
    Prop where
  set : ∀ key source, step.context.get? key = some source →
    ∃ value, r source (templateDocument event parent) = .ok value ∧ context.get? key = some value
  kept : ∀ key, step.context.get? key = none → context.get? key = parent.get? key

section

variable {r : Renderer} {step : Step} {event : Event} {parent w : Context}

theorem Widens.unique {w' : Context} (h : step.Widens r event parent w)
    (h' : step.Widens r event parent w') : w = w' := by
  apply Dict.ext_get?
  intro key
  cases hsource : step.context.get? key with
  | none => rw [h.kept key hsource, h'.kept key hsource]
  | some source =>
      obtain ⟨value, hvalue, hget⟩ := h.set key source hsource
      obtain ⟨value', hvalue', hget'⟩ := h'.set key source hsource
      rw [hget, hget', Except.ok.inj (hvalue.symm.trans hvalue')]

theorem Widens.contains (h : step.Widens r event parent w) (key : String) :
    w.contains key = (step.context.contains key || parent.contains key) := by
  unfold Dict.contains
  cases hsource : step.context.get? key with
  | none => simp [h.kept key hsource]
  | some source =>
      obtain ⟨value, -, hvalue⟩ := h.set key source hsource
      simp [hvalue]

theorem widens_of_widenContext (h : step.widenContext r event parent = .ok w) :
    step.Widens r event parent w := by
  obtain ⟨added, hadded, rfl⟩ := map_eq_ok.1 h
  have hfills := Renderer.fills_of_resolveMap hadded
  constructor
  · intro key source hsource
    obtain ⟨value, hvalue, hget⟩ := hfills.get?_of_some hsource
    exact ⟨value, hvalue, by rw [Dict.get?_override, hget, Option.some_or]⟩
  · intro key hnone
    rw [Dict.get?_override, hfills.get?_of_none hnone, Option.none_or]

theorem inTurn_widenContext : r.InTurn (templateDocument event parent) step.context.values
    (step.widenContext r event parent) :=
  (Renderer.inTurn_resolveMap step.context).map _

theorem widenContext_eq_ok :
    step.widenContext r event parent = .ok w ↔ step.Widens r event parent w := by
  refine ⟨widens_of_widenContext, fun h => ?_⟩
  have hrender : ∀ source ∈ step.context.values,
      r.Renders (templateDocument event parent) source := by
    intro source hsource
    obtain ⟨key, hkey⟩ := Dict.mem_values.1 hsource
    obtain ⟨value, hvalue, -⟩ := h.set key source hkey
    exact ⟨value, hvalue⟩
  obtain ⟨w', hwiden⟩ := inTurn_widenContext.exists_ok.2 hrender
  rw [hwiden, (widens_of_widenContext hwiden).unique h]

end

/-! ## What a stage may do -/

section

variable (r : Renderer) (step : Step) (event : Event) (parent w : Context)

/-- A stage lets the event pass, where `w` is the context that the step works in. -/
def PassesAt : Stage → Prop
  | .context => step.Widens r event parent w ∧
      event.pack.name = step.event.packName ∧ event.name = step.event.name
  | .labels => ∃ selector, r.Fills (templateDocument event w) step.event.packLabels selector ∧
      ∀ key value, selector.get? key = some value → event.pack.labels.get? key = some value
  | .criteria => Text.isBlankText step.criteria = true ∨
      r.Spells (templateDocument event w) step.criteria true
  | .command => ∃ labels input,
      r.Fills (templateDocument event w) step.command.packLabels labels ∧
      r.Resolved (templateDocument event w) step.command.input input

/-- A stage lets the event go. -/
def DeclinesAt : Stage → Prop
  | .context => step.Widens r event parent w ∧
      ¬ (event.pack.name = step.event.packName ∧ event.name = step.event.name)
  | .labels => ∃ selector, r.Fills (templateDocument event w) step.event.packLabels selector ∧
      ¬ ∀ key value, selector.get? key = some value → event.pack.labels.get? key = some value
  | .criteria => Text.isBlankText step.criteria = false ∧
      r.Spells (templateDocument event w) step.criteria false
  | .command => False

/-- A stage fails for a reason. -/
def FailsAt (cause : ResolveError) : Stage → Prop
  | .context => r.FailsFirst (templateDocument event parent) step.context.values cause
  | .labels => r.FailsFirst (templateDocument event w) step.event.packLabels.values cause
  | .criteria => Text.isBlankText step.criteria = false ∧
      r.Misspells (templateDocument event w) step.criteria cause
  | .command => r.FailsFirst (templateDocument event w)
      (step.command.packLabels.values ++ step.command.input.texts) cause

/-- A template of a stage cannot be rendered, or the criteria spell no truth value. -/
def BreaksAt : Stage → Prop
  | .context => ∃ source ∈ step.context.values,
      ¬ r.Renders (templateDocument event parent) source
  | .labels => ∃ source ∈ step.event.packLabels.values,
      ¬ r.Renders (templateDocument event w) source
  | .criteria => Text.isBlankText step.criteria = false ∧
      ∀ b, ¬ r.Spells (templateDocument event w) step.criteria b
  | .command => ∃ source ∈ step.command.packLabels.values ++ step.command.input.texts,
      ¬ r.Renders (templateDocument event w) source

/-- All stages before a stage let the event pass. -/
def Reaches (stage : Stage) : Prop := ∀ earlier ∈ stage.before, step.PassesAt r event parent w earlier

/-- The new action for a step's command, with its selector and its input. -/
def made (labels : Labels) (input : Json) (stamp : Stamp) : Action where
  id := stamp.id
  name := step.command.name
  packName := step.command.packName
  packLabels := labels
  input := input
  state := ⟨.new, stamp.time⟩
  history := [⟨.new, stamp.time⟩]
  correlationId := ""
  flowUuid := none
  flowName := ""
  stepId := step.id
  context := w
  trigger := event
  result := none
  previous := none

/-- What the evaluation of a step comes to. -/
inductive ComesTo (stamp : Stamp) : Except EvaluationError (Option Action) → Prop
  | fails {w : Context} {stage : Stage} {cause : ResolveError}
      (hreach : step.Reaches r event parent w stage)
      (hfails : step.FailsAt r event parent w cause stage) :
      ComesTo stamp (.error ⟨stage, step.id, cause⟩)
  | declines {w : Context} {stage : Stage} (hreach : step.Reaches r event parent w stage)
      (hdeclines : step.DeclinesAt r event parent w stage) : ComesTo stamp (.ok none)
  | makes {w : Context} {labels : Labels} {input : Json}
      (hreach : step.Reaches r event parent w .command)
      (hlabels : r.Fills (templateDocument event w) step.command.packLabels labels)
      (hinput : r.Resolved (templateDocument event w) step.command.input input) :
      ComesTo stamp (.ok (some (step.made event w labels input stamp)))

end

section

variable {r : Renderer} {step : Step} {event : Event} {parent w : Context} {document : Json}

theorem listensTo_iff : step.listensTo event = true ↔
    event.pack.name = step.event.packName ∧ event.name = step.event.name := by
  simp [listensTo, Event.isFrom]

theorem meetsCriteria_eq_ok {b : Bool} :
    step.meetsCriteria r document = .ok b ↔
      Text.isBlankText step.criteria = true ∧ b = true ∨
      Text.isBlankText step.criteria = false ∧ r.Spells document step.criteria b := by
  unfold meetsCriteria
  cases Text.isBlankText step.criteria with
  | true => simp [eq_comm]
  | false => simp [Renderer.resolveBool_eq_ok]

theorem meetsCriteria_eq_error {cause : ResolveError} :
    step.meetsCriteria r document = .error cause ↔
      Text.isBlankText step.criteria = false ∧ r.Misspells document step.criteria cause := by
  unfold meetsCriteria
  cases Text.isBlankText step.criteria with
  | true => simp
  | false => simp [Renderer.resolveBool_eq_error]

theorem commandParts_eq_ok {labels : Labels} {input : Json} :
    step.commandParts r document = .ok (labels, input) ↔
      r.Fills document step.command.packLabels labels ∧
        r.Resolved document step.command.input input := by
  simp only [commandParts, bind_eq_ok, pure_eq_ok, Renderer.resolveMap_eq_ok,
    Renderer.resolve_eq_ok, Prod.mk.injEq]
  constructor
  · rintro ⟨_, hlabels, _, hinput, rfl, rfl⟩
    exact ⟨hlabels, hinput⟩
  · rintro ⟨hlabels, hinput⟩
    exact ⟨labels, hlabels, input, hinput, rfl, rfl⟩

theorem inTurn_commandParts : r.InTurn document
    (step.command.packLabels.values ++ step.command.input.texts) (step.commandParts r document) :=
  (Renderer.inTurn_resolveMap _).bind fun _ => (Renderer.inTurn_resolve _).bind_pure _

/-! ## What it is for a stage to let pass, to let go and to fail -/

theorem passesAt_context : step.PassesAt r event parent w .context ↔
    step.widenContext r event parent = .ok w ∧ step.listensTo event = true := by
  rw [widenContext_eq_ok, listensTo_iff]
  rfl

theorem declinesAt_context : step.DeclinesAt r event parent w .context ↔
    step.widenContext r event parent = .ok w ∧ step.listensTo event = false := by
  rw [widenContext_eq_ok, ← Bool.not_eq_true, listensTo_iff]
  rfl

theorem failsAt_context {cause : ResolveError} : step.FailsAt r event parent w cause .context ↔
    step.widenContext r event parent = .error cause :=
  (inTurn_widenContext cause).symm

theorem passesAt_labels : step.PassesAt r event parent w .labels ↔
    ∃ selector, r.resolveMap (templateDocument event w) step.event.packLabels = .ok selector ∧
      Labels.fits selector event.pack.labels = true := by
  simp only [Renderer.resolveMap_eq_ok, Labels.fits_iff]
  rfl

theorem declinesAt_labels : step.DeclinesAt r event parent w .labels ↔
    ∃ selector, r.resolveMap (templateDocument event w) step.event.packLabels = .ok selector ∧
      Labels.fits selector event.pack.labels = false := by
  simp only [Renderer.resolveMap_eq_ok, ← Bool.not_eq_true, Labels.fits_iff]
  rfl

theorem failsAt_labels {cause : ResolveError} : step.FailsAt r event parent w cause .labels ↔
    r.resolveMap (templateDocument event w) step.event.packLabels = .error cause :=
  (Renderer.inTurn_resolveMap step.event.packLabels cause).symm

theorem passesAt_criteria : step.PassesAt r event parent w .criteria ↔
    step.meetsCriteria r (templateDocument event w) = .ok true := by
  rw [meetsCriteria_eq_ok]
  unfold PassesAt
  cases Text.isBlankText step.criteria <;> simp

theorem declinesAt_criteria : step.DeclinesAt r event parent w .criteria ↔
    step.meetsCriteria r (templateDocument event w) = .ok false := by
  rw [meetsCriteria_eq_ok]
  unfold DeclinesAt
  simp

theorem failsAt_criteria {cause : ResolveError} : step.FailsAt r event parent w cause .criteria ↔
    step.meetsCriteria r (templateDocument event w) = .error cause :=
  meetsCriteria_eq_error.symm

theorem failsAt_command {cause : ResolveError} : step.FailsAt r event parent w cause .command ↔
    step.commandParts r (templateDocument event w) = .error cause :=
  (inTurn_commandParts cause).symm

/-! ## The evaluation -/

@[simp] theorem atStage_ok_bind {α β : Type} (stage : Stage) (a : α)
    (f : α → Except EvaluationError β) : (step.atStage stage (.ok a) >>= f) = f a :=
  rfl

@[simp] theorem atStage_error_bind {α β : Type} (stage : Stage) (cause : ResolveError)
    (f : α → Except EvaluationError β) :
    (step.atStage stage (.error cause) >>= f) = .error ⟨stage, step.id, cause⟩ :=
  rfl

theorem reaches_context : step.Reaches r event parent w .context := by
  simp [Reaches, Stage.before]

theorem reaches_labels : step.Reaches r event parent w .labels ↔
    step.widenContext r event parent = .ok w ∧ step.listensTo event = true := by
  simp [Reaches, Stage.before, passesAt_context]

theorem reaches_criteria : step.Reaches r event parent w .criteria ↔
    step.Reaches r event parent w .labels ∧ ∃ selector,
      r.resolveMap (templateDocument event w) step.event.packLabels = .ok selector ∧
        Labels.fits selector event.pack.labels = true := by
  simp [Reaches, Stage.before, passesAt_labels]

theorem reaches_command : step.Reaches r event parent w .command ↔
    step.Reaches r event parent w .criteria ∧
      step.meetsCriteria r (templateDocument event w) = .ok true := by
  simp [Reaches, Stage.before, passesAt_criteria, and_assoc]

variable {stamp : Stamp}

theorem evaluate_of_comesTo {outcome : Except EvaluationError (Option Action)}
    (h : step.ComesTo r event parent stamp outcome) :
    step.evaluate r event parent stamp = outcome := by
  -- The stages before the one that decides have passed, so each computation in them gives a result.
  cases h with
  | @fails w stage cause hreach hfails =>
      cases stage with
      | context =>
          have hwiden := failsAt_context.1 hfails
          simp [evaluate, hwiden]
      | labels =>
          obtain ⟨hwiden, hlistens⟩ := reaches_labels.1 hreach
          have hselector := failsAt_labels.1 hfails
          simp [evaluate, hwiden, hlistens, hselector]
      | criteria =>
          obtain ⟨hlabels, selector, hselector, hfits⟩ := reaches_criteria.1 hreach
          obtain ⟨hwiden, hlistens⟩ := reaches_labels.1 hlabels
          have hmeets := failsAt_criteria.1 hfails
          simp [evaluate, hwiden, hlistens, hselector, hfits, hmeets]
      | command =>
          obtain ⟨hcriteria, hmeets⟩ := reaches_command.1 hreach
          obtain ⟨hlabels, selector, hselector, hfits⟩ := reaches_criteria.1 hcriteria
          obtain ⟨hwiden, hlistens⟩ := reaches_labels.1 hlabels
          have hparts := failsAt_command.1 hfails
          simp [evaluate, pure, Except.pure, hwiden, hlistens, hselector, hfits, hmeets, hparts]
  | @declines w stage hreach hdeclines =>
      cases stage with
      | context =>
          obtain ⟨hwiden, hlistens⟩ := declinesAt_context.1 hdeclines
          simp [evaluate, pure, Except.pure, hwiden, hlistens]
      | labels =>
          obtain ⟨hwiden, hlistens⟩ := reaches_labels.1 hreach
          obtain ⟨selector, hselector, hfits⟩ := declinesAt_labels.1 hdeclines
          simp [evaluate, pure, Except.pure, hwiden, hlistens, hselector, hfits]
      | criteria =>
          obtain ⟨hlabels, selector, hselector, -⟩ := reaches_criteria.1 hreach
          obtain ⟨hwiden, hlistens⟩ := reaches_labels.1 hlabels
          have hmeets := declinesAt_criteria.1 hdeclines
          simp [evaluate, pure, Except.pure, hwiden, hlistens, hselector, hmeets]
      | command => cases hdeclines
  | @makes w labels input hreach hlabels hinput =>
      obtain ⟨hcriteria, hmeets⟩ := reaches_command.1 hreach
      obtain ⟨hpasses, selector, hselector, hfits⟩ := reaches_criteria.1 hcriteria
      obtain ⟨hwiden, hlistens⟩ := reaches_labels.1 hpasses
      have hparts := commandParts_eq_ok.2 ⟨hlabels, hinput⟩
      simp [evaluate, pure, Except.pure, hwiden, hlistens, hselector, hfits, hmeets, hparts,
        Action.new, made]

theorem exists_comesTo (r : Renderer) (step : Step) (event : Event) (parent : Context)
    (stamp : Stamp) : ∃ outcome, step.ComesTo r event parent stamp outcome := by
  -- A stage that fails or lets the event go ends the matter; the next is looked at only if it passes.
  cases hwiden : step.widenContext r event parent with
  | error cause => exact ⟨_, .fails (w := parent) reaches_context (failsAt_context.2 hwiden)⟩
  | ok w =>
  cases hlistens : step.listensTo event with
  | false => exact ⟨_, .declines reaches_context (declinesAt_context.2 ⟨hwiden, hlistens⟩)⟩
  | true =>
  have hlabels : step.Reaches r event parent w .labels := reaches_labels.2 ⟨hwiden, hlistens⟩
  cases hselector : r.resolveMap (templateDocument event w) step.event.packLabels with
  | error cause => exact ⟨_, .fails hlabels (failsAt_labels.2 hselector)⟩
  | ok selector =>
  cases hfits : Labels.fits selector event.pack.labels with
  | false => exact ⟨_, .declines hlabels (declinesAt_labels.2 ⟨selector, hselector, hfits⟩)⟩
  | true =>
  have hcriteria : step.Reaches r event parent w .criteria :=
    reaches_criteria.2 ⟨hlabels, selector, hselector, hfits⟩
  cases hmeets : step.meetsCriteria r (templateDocument event w) with
  | error cause => exact ⟨_, .fails hcriteria (failsAt_criteria.2 hmeets)⟩
  | ok isMet =>
  cases isMet with
  | false => exact ⟨_, .declines hcriteria (declinesAt_criteria.2 hmeets)⟩
  | true =>
  have hcommand : step.Reaches r event parent w .command := reaches_command.2 ⟨hcriteria, hmeets⟩
  cases hparts : step.commandParts r (templateDocument event w) with
  | error cause => exact ⟨_, .fails hcommand (failsAt_command.2 hparts)⟩
  | ok parts =>
      obtain ⟨hfills, hresolved⟩ := commandParts_eq_ok.1 hparts
      exact ⟨_, .makes hcommand hfills hresolved⟩

theorem evaluate_eq_iff {outcome : Except EvaluationError (Option Action)} :
    step.evaluate r event parent stamp = outcome ↔ step.ComesTo r event parent stamp outcome := by
  refine ⟨?_, evaluate_of_comesTo⟩
  rintro rfl
  obtain ⟨outcome, h⟩ := exists_comesTo r step event parent stamp
  rwa [evaluate_of_comesTo h]

theorem made_of_evaluate {a : Action} (h : step.evaluate r event parent stamp = .ok (some a)) :
    ∃ w labels input, step.Widens r event parent w ∧ a = step.made event w labels input stamp := by
  rcases evaluate_eq_iff.1 h with _ | _ | ⟨hreach, -, -⟩
  exact ⟨_, _, _, (hreach .context (by simp [Stage.before])).1, rfl⟩

theorem evaluate_eq_some {a : Action} (h : step.evaluate r event parent stamp = .ok (some a)) :
    ∃ labels input context, a =
      { Action.new step.command.name step.command.packName labels input event stamp with
        context
        stepId := step.id } := by
  obtain ⟨w, labels, input, -, rfl⟩ := made_of_evaluate h
  exact ⟨labels, input, w, rfl⟩

theorem widens_of_evaluate {a : Action} (h : step.evaluate r event parent stamp = .ok (some a)) :
    step.Widens r event parent a.context := by
  obtain ⟨w, labels, input, hwidens, rfl⟩ := made_of_evaluate h
  exact hwidens

theorem exists_failsAt {stage : Stage} :
    (∃ cause, step.FailsAt r event parent w cause stage) ↔
      step.BreaksAt r event parent w stage := by
  cases stage with
  | context => exact Renderer.exists_failsFirst
  | labels => exact Renderer.exists_failsFirst
  | criteria => exact exists_and_left.trans (and_congr_right fun _ => Renderer.exists_misspells)
  | command => exact Renderer.exists_failsFirst

theorem evaluate_eq_error {e : EvaluationError} :
    step.evaluate r event parent stamp = .error e ↔
      e.step = step.id ∧ ∃ w, step.Reaches r event parent w e.stage ∧
        step.FailsAt r event parent w e.cause e.stage := by
  rw [evaluate_eq_iff]
  constructor
  · rintro (⟨hreach, hfails⟩ | _ | _)
    exact ⟨rfl, _, hreach, hfails⟩
  · obtain ⟨stage, id, cause⟩ := e
    rintro ⟨rfl, w, hreach, hfails⟩
    exact .fails hreach hfails

end

/-- Evaluation is staged. It fails in a stage exactly if that stage is reached and a template of it
cannot be rendered (or the criteria spell no truth value), and the failure is that of the first such
template. It gives nothing exactly if a stage that is reached lets the event go, whatever the later
templates are like. Otherwise it gives a new action, with the context that the stages worked in. The
templates of that context are rendered against the context as it was: none sees what another comes
to. -/
theorem evaluate_staged (r : Renderer) (step : Step) (event : Event) (parent : Context)
    (stamp : Stamp) :
    (∀ stage, (∃ cause, step.evaluate r event parent stamp = .error ⟨stage, step.id, cause⟩) ↔
      ∃ w, step.Reaches r event parent w stage ∧ step.BreaksAt r event parent w stage) ∧
    (∀ e, step.evaluate r event parent stamp = .error e ↔
      e.step = step.id ∧ ∃ w, step.Reaches r event parent w e.stage ∧
        step.FailsAt r event parent w e.cause e.stage) ∧
    (step.evaluate r event parent stamp = .ok none ↔
      ∃ w stage, step.Reaches r event parent w stage ∧ step.DeclinesAt r event parent w stage) ∧
    ∀ a, step.evaluate r event parent stamp = .ok (some a) ↔
      ∃ w labels input, step.Reaches r event parent w .command ∧
        r.Fills (templateDocument event w) step.command.packLabels labels ∧
        r.Resolved (templateDocument event w) step.command.input input ∧
        a = step.made event w labels input stamp := by
  refine ⟨fun stage => ?_, fun e => evaluate_eq_error, ?_, fun a => ?_⟩
  · simp only [evaluate_eq_error, true_and, ← exists_failsAt]
    rw [exists_comm]
    simp only [exists_and_left]
  · rw [evaluate_eq_iff]
    constructor
    · rintro (_ | ⟨hreach, hdeclines⟩ | _)
      exact ⟨_, _, hreach, hdeclines⟩
    · rintro ⟨w, stage, hreach, hdeclines⟩
      exact .declines hreach hdeclines
  · rw [evaluate_eq_iff]
    constructor
    · rintro (_ | _ | ⟨hreach, hlabels, hinput⟩)
      exact ⟨_, _, _, hreach, hlabels, hinput, rfl⟩
    · rintro ⟨w, labels, input, hreach, hlabels, hinput, rfl⟩
      exact .makes hreach hlabels hinput

end Step

end Orchestrator
