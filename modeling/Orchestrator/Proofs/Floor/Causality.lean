import Orchestrator.Proofs.Floor.Origin
import Orchestrator.Proofs.Floor.Overtaking

/-!
The order in which the steps of a run come. As long as nothing expires, a stored action of a step that
depends on others stands beside the finished actions of these. When it was made they had finished,
and what has finished stays so.
-/

namespace Orchestrator

namespace Floor

/-- A step of a run has a stored action that has finished. -/
def HasFinished (s : Floor) (correlationId stepId : String) : Prop :=
  ∃ id a, s.actions.get? id = some a ∧ a.correlationId = correlationId ∧ a.stepId = stepId ∧
    a.hasFinished = true

/-- A step that has ended is still stored as such, unless its action has expired. -/
theorem Ended.stored {s : Floor} (hs : s.Sound) (hcomplete : s.Complete)
    {correlationId stepId : String} (h : s.Ended correlationId stepId) :
    s.HasFinished correlationId stepId := by
  obtain ⟨a, ha, hrun, hstep, hfinished⟩ := h
  obtain ⟨b, hb⟩ := hcomplete a ha
  have holder : a.Older b := hs.booked.latest _ _ _ hb ha rfl
  obtain ⟨hbrun, hbstep⟩ := Action.run_eq_of_core holder.core
  refine ⟨a.id, b, hb, hbrun ▸ hrun, hbstep ▸ hstep, ?_⟩
  exact holder.hasFinished (hs.booked.lived a ha) (hs.booked.lived b (hs.booked.recorded _ _ hb))
    hfinished

/-- The step of a stored action is found in the version of the flow that the action names. -/
theorem Rooted.step? {s : Floor} (h : s.Rooted) {a : Action} (ha : Recorded s.journal a) :
    ∃ uuid flow step, a.flowUuid = some uuid ∧ s.flows.getByUuid? uuid = some flow ∧
      flow.step? a.stepId = some step ∧ s.Ready a.correlationId step := by
  obtain ⟨flow, step, hrooted⟩ := h.actions a ha
  obtain ⟨uuid, hversion, hfound⟩ := h.versions.found flow hrooted.known
  have hnodup : flow.stepIds.Nodup := h.stepIds_nodup (.inr hrooted.known)
  refine ⟨uuid, flow, step, hrooted.version.trans hversion, hfound, ?_, hrooted.ready⟩
  rw [hrooted.stepId]
  exact FlowDefinition.step?_of_mem hnodup hrooted.member

/-- In a run without expiry, whatever the order of its moves, the step of every stored action is found
in the version of its flow; and if it depends on others, then one of these has a stored action of
the same run that has finished, or each of them has, as the mode demands. -/
theorem dependencies_finished (mode : DependencyMode) (moves : List Move)
    (hstay : ∀ move ∈ moves, move.isExpiry = false) (id : String) (a : Action)
    (hstored : (run mode moves).actions.get? id = some a) :
    ∃ uuid flow step, a.flowUuid = some uuid ∧
      (run mode moves).flows.getByUuid? uuid = some flow ∧ flow.step? a.stepId = some step ∧
      (step.dependsOn ≠ [] → mode.Met step ((run mode moves).HasFinished a.correlationId)) := by
  have hs := run_sound mode moves
  have ha := hs.booked.recorded id a hstored
  obtain ⟨uuid, flow, step, huuid, hflow, hstep, hready⟩ := (run_rooted mode moves).step? ha
  refine ⟨uuid, flow, step, huuid, hflow, hstep, fun hsome => ?_⟩
  have hmet := hready.resolve_left hsome
  rw [run_mode] at hmet
  exact hmet.imp fun _ hended => hended.stored hs (run_complete hstay)

namespace Dinner

/-- The dessert that is stored depends on both courses. -/
theorem dessert_step :
    (((run .all desserts).actions.get? (stamp 10).id).bind fun a =>
      (a.flowUuid.bind fun uuid => (run .all desserts).flows.getByUuid? uuid).bind fun f =>
        (f.step? a.stepId).map fun step => (a.correlationId, step.dependsOn)) =
      some ("table", ["soup", "roast"]) := by
  rw [desserts, run_beginTake (by decide +kernel), run_beginTake (by decide +kernel)]
  decide +kernel

end Dinner

open Dinner in
theorem courses_before_dessert :
    (∀ move ∈ desserts, move.isExpiry = false) ∧
      ∀ course ∈ ["soup", "roast"], (run .all desserts).HasFinished "table" course := by
  refine ⟨desserts_stay, ?_⟩
  have hdessert := dessert_step
  cases hstored : (run .all desserts).actions.get? (stamp 10).id with
  | none => simp [hstored] at hdessert
  | some a =>
      obtain ⟨uuid, flow, step, huuid, hflow, hstep, hmet⟩ :=
        dependencies_finished .all desserts desserts_stay _ a hstored
      simp only [hstored, huuid, hflow, hstep, Option.bind_some, Option.map_some,
        Option.some.injEq, Prod.mk.injEq] at hdessert
      have hall : ∀ course ∈ step.dependsOn,
          (run .all desserts).HasFinished a.correlationId course :=
        hmet (by simp [hdessert.2])
      rwa [hdessert.1, hdessert.2] at hall

end Floor

end Orchestrator
