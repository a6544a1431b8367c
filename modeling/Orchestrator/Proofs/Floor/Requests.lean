import Orchestrator.Proofs.Api.Serving
import Orchestrator.Proofs.Floor.Lifecycle
import Orchestrator.Proofs.Floor.Pinning

/-!
The floor behind its service. Requests come in any order and change the flows and the actions, and
between them all that has been begun goes on in any way: what was reported is dispatched, walks
advance, takers and completers come between each other, and old actions expire.

Whatever is reached so, every stored action belongs to the version of the flow that its run began
with, and carries out a step of this version.
-/

namespace Orchestrator

theorem Uuid.text_ne_empty (u : Uuid) : u.text ≠ "" := by
  intro h
  have hlist := congrArg String.toList h
  simp [text, groups, hyphenated] at hlist

/-- Taking changes one of the actions that were read, or none. -/
theorem Broker.takeFirst_writes {s s' : ActionStore} {now : Timestamp} {queue : List Action}
    {taken : Option Action} (h : takeFirst s now queue = .ok (taken, s')) :
    s' = s ∨ ∃ a ∈ queue, ∃ b, a.core = b.core ∧ b.state.value = .pending ∧
      s' = s.insert a.id b := by
  induction queue with
  | nil =>
      simp only [takeFirst, Except.ok.injEq, Prod.mk.injEq] at h
      exact .inl h.2.symm
  | cons a rest ih =>
      simp only [takeFirst] at h
      split at h
      · next hclaim =>
        simp only [Except.ok.injEq, Prod.mk.injEq] at h
        obtain ⟨-, b, -, -, rfl, hstore⟩ := claim_eq_ok.1 hclaim
        refine .inr ⟨a, List.mem_cons_self, _, ?_, ?_, h.2.symm.trans hstore⟩
        · rfl
        · rfl
      · rcases ih h with hsame | ⟨b, hb, hwrites⟩
        · exact .inl hsame
        · exact .inr ⟨b, List.mem_cons_of_mem _ hb, hwrites⟩
      · cases h

namespace Floor

/-- The floor after a request, which a hub has served at one stroke on the flows and the actions of
the floor. What the request has reported is dispatched. -/
def serve (s : Floor) (shared : Bool) (hub : Hub) (r : Http.Request) : Floor :=
  let after := (Api.serve shared { hub with
    flows := s.flows, actions := s.actions, reports := [] } r).2
  { s with flows := after.flows, actions := after.actions }.begin <|
    after.reports.map fun report => .dispatch report false

/-- What a floor comes to by requests and moves. Identifiers of versions are new, and those of runs
are texts of identifiers. -/
inductive Reachable (mode : DependencyMode) : Floor → Prop where
  | start : Reachable mode (empty mode)
  | request {s : Floor} (shared : Bool) (hub : Hub) (r : Http.Request)
      (hfresh : ∀ n, ∀ f ∈ s.flows.history, f.uuid ≠ some (hub.supply n).uuid)
      (h : Reachable mode s) : Reachable mode (s.serve shared hub r)
  | move {s : Floor} (move : Move) (hids : ∀ id ∈ move.ids, ∃ u : Uuid, id = u.text)
      (h : Reachable mode s) : Reachable mode (s.step move)

/-- Requests keep to the versions that runs go by. -/
theorem Pinned.serve {pins : Pins} {s : Floor} (h : s.Pinned pins) (shared : Bool) (hub : Hub)
    (r : Http.Request) (hfresh : ∀ n, ∀ f ∈ s.flows.history, f.uuid ≠ some (hub.supply n).uuid) :
    (s.serve shared hub r).Pinned pins := by
  unfold Floor.serve
  have hchange := Api.change_serve shared
    { hub with flows := s.flows, actions := s.actions, reports := [] } r
  generalize (Api.serve shared
    { hub with flows := s.flows, actions := s.actions, reports := [] } r).2 = after at hchange
  cases hchange with
  | none => exact h.begin (by simp)
  | registered hvalid => exact (h.register hvalid (hfresh _)).begin (by simp)
  | removed => exact (h.remove _).begin (by simp)
  | published => exact h.begin (by simp [Task.Pinned])
  | took htake =>
      refine begin ?_ (by simp)
      rcases Broker.takeFirst_writes htake with rfl | ⟨a, ha, b, hcore, -, rfl⟩
      · exact h
      · exact h.insert (h.candidates ha) hcore _
  | completed _ hcomplete =>
      simp only [Broker.complete_eq] at hcomplete
      split at hcomplete
      · next a hstored =>
        obtain ⟨-, -, b, -, -, rfl, rfl⟩ := Broker.settle_eq_ok_some.1 hcomplete
        have ha := h.actions _ a hstored
        refine begin ?_ fun t ht => ?_
        · exact h.insert ha (Action.core_entered a _ _ _).symm _
        · obtain rfl := List.mem_singleton.1 ht
          exact ha.of_core rfl
      · cases hcomplete

theorem Reachable.pinned {mode : DependencyMode} {s : Floor} (h : Reachable mode s) :
    ∃ pins, s.Pinned pins := by
  induction h with
  | start => exact ⟨_, pinned_empty mode⟩
  | request shared hub r hfresh _ ih =>
      obtain ⟨pins, hpinned⟩ := ih
      exact ⟨pins, hpinned.serve shared hub r hfresh⟩
  | @move s move hids _ ih =>
      obtain ⟨pins, hpinned⟩ := ih
      rcases s.step_effect move with hsame | heffect
      · exact ⟨pins, hsame.symm ▸ hpinned⟩
      · refine heffect.pinned hpinned fun id hid => ?_
        obtain ⟨u, rfl⟩ := hids id hid
        exact u.text_ne_empty

theorem reachable_foldl {mode : DependencyMode} {s : Floor} {moves : List Move}
    (h : Reachable mode s) (hids : ∀ move ∈ moves, ∀ id ∈ move.ids, ∃ u : Uuid, id = u.text) :
    Reachable mode (moves.foldl step s) := by
  induction moves generalizing s with
  | nil => exact h
  | cons move rest ih =>
      refine ih (.move move (hids move List.mem_cons_self) h) ?_
      exact fun m hm => hids m (List.mem_cons_of_mem _ hm)

/-- However a floor was reached, by requests and moves in any order, every stored action belongs to a
run and is made for the one step of its identifier in a version of the flow that is valid and in the
history; it has the name of this flow and the command of this step, which listens to its trigger. And
all actions of one run belong to one version. -/
theorem reachable_actions_pinned (mode : DependencyMode) {s : Floor} (h : Reachable mode s) :
    (∀ id a, s.actions.get? id = some a →
      a.correlationId ≠ "" ∧ a.stepId ≠ "" ∧ ∃ uuid flow step, a.flowUuid = some uuid ∧
        s.flows.getByUuid? uuid = some flow ∧ flow.validate = .ok () ∧ a.flowName = flow.name ∧
        flow.steps.filter (fun t => t.id == a.stepId) = [step] ∧
        a.name = step.command.name ∧ a.packName = step.command.packName ∧
        step.listensTo a.trigger = true) ∧
    ∀ id id' a b, s.actions.get? id = some a → s.actions.get? id' = some b →
      a.correlationId = b.correlationId → a.flowUuid = b.flowUuid := by
  obtain ⟨pins, hpinned⟩ := h.pinned
  constructor
  · intro id a ha
    obtain ⟨flow, step, hpin, hcarries⟩ := hpinned.actions id a ha
    obtain ⟨hflow, -, hnonempty⟩ := hpinned.known _ _ hpin
    have hvalid := hpinned.versions.valid flow hflow
    obtain ⟨uuid, huuid, hfound⟩ := hpinned.versions.found flow hflow
    have hone := FlowDefinition.filter_id_of_mem
      (FlowDefinition.stepIds_nodup_of_validate hvalid) hcarries.member
    rw [← hcarries.stepId] at hone
    refine ⟨hnonempty, ?_, uuid, flow, step, hcarries.version.trans huuid, hfound, hvalid,
      hcarries.flowName, hone, hcarries.name, hcarries.packName, hcarries.trigger⟩
    rw [hcarries.stepId]
    exact FlowDefinition.stepId_ne_empty_of_validate hvalid hcarries.member
  · intro id id' a b ha hb hrun
    obtain ⟨flow, step, hpin, hcarries⟩ := hpinned.actions id a ha
    obtain ⟨flow', step', hpin', hcarries'⟩ := hpinned.actions id' b hb
    rw [hrun, hpin', Option.some.injEq] at hpin
    rw [hcarries.version, hcarries'.version, hpin]

namespace Dinner

/-- The two courses wait for the kitchen, at a table with an identifier. -/
def seated : List Move :=
  [.register flow ⟨0⟩, .publish (event "hall" "order"), .load 0 [(stamp 9).id],
    .evaluate 1 renderer (stamp 1), .call 1, .evaluate 1 renderer (stamp 2), .call 1]

/-- A hub that would give the number eight to whatever is registered. -/
def hub : Hub := .empty .any fun _ => stamp 8

/-- The dinner is taken off the menu while it is cooked. -/
def offMenu : Floor :=
  (run .any seated).serve true hub ⟨"DELETE", "/v1/flows/dinner", none, none, ⟨#[]⟩⟩

theorem seated_reachable : Reachable .any (run .any seated) := by
  have hids : ∀ move ∈ seated, ∀ id ∈ move.ids, ∃ u : Uuid, id = u.text := by
    intro move hmove id hid
    simp only [seated, List.mem_cons, List.not_mem_nil, or_false] at hmove
    rcases hmove with rfl | rfl | rfl | rfl | rfl | rfl | rfl <;>
      simp only [Move.ids, List.mem_singleton, List.not_mem_nil] at hid
    exact ⟨_, hid⟩
  exact reachable_foldl .start hids

end Dinner

open Dinner in
theorem soup_off_the_menu :
    Reachable .any offMenu ∧ offMenu.flows.get? "dinner" = none ∧
      ∃ a uuid flow, offMenu.actions.get? (stamp 1).id = some a ∧ a.flowUuid = some uuid ∧
        offMenu.flows.getByUuid? uuid = some flow ∧ a.flowName = flow.name := by
  have hfresh : ∀ n, ∀ f ∈ (run .any seated).flows.history, f.uuid ≠ some (hub.supply n).uuid := by
    have hhistory : ∀ f ∈ (run .any seated).flows.history, f.uuid ≠ some (stamp 8).uuid := by
      decide +kernel
    exact fun _ => hhistory
  have hreachable : Reachable .any offMenu := .request true hub _ hfresh seated_reachable
  have hsome : (offMenu.actions.get? (stamp 1).id).isSome = true := by decide +kernel
  obtain ⟨a, ha⟩ := Option.isSome_iff_exists.1 hsome
  obtain ⟨-, -, uuid, flow, step, huuid, hflow, -, hname, -⟩ :=
    (reachable_actions_pinned .any hreachable).1 _ a ha
  exact ⟨hreachable, by decide +kernel, a, uuid, flow, ha, huuid, hflow, hname⟩

end Floor

end Orchestrator
