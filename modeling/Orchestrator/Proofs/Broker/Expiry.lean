import Orchestrator.Proofs.Broker.Race

/-!
TAKE against expiry. Expiry may remove a candidate after the call has read it. Such a candidate is
not one that was lost to another taker: its attempt is refused for another reason, and the call ends
with that error, although candidates that are still new may come later.

The main statement says which calls this happens to; all other calls end as if nothing expired.
-/

namespace Orchestrator

namespace Broker

theorem candidates_new {s : ActionStore} {pack : Pack} {name : Option String} {a : Action}
    (ha : a ∈ candidates s pack name) : a.state.value = .new := by
  rw [candidates, List.mem_filter, ActionStore.mem_findNew, ActionStore.isWaiting_iff] at ha
  exact ha.1.2.1

theorem MovedOn.not_gone {s : ActionStore} {a : Action} (h : MovedOn s a) : ¬ Gone s a := by
  obtain ⟨b, hb, -⟩ := h
  rw [Gone, hb]
  exact Option.some_ne_none b

/-- A call comes to a candidate that is gone: those before it were lost to others. -/
def Meets (gaps : Nat → List Stroke) (s : ActionStore) (queue : List Action) (n : Nat)
    (a : Action) : Prop :=
  queue[n]? = some a ∧ Gone (others gaps s (n + 1)) a ∧ LostBefore gaps s queue n

section Meeting

variable {gaps : Nat → List Stroke} {clock : Nat → Timestamp} {s : ActionStore}
  {queue : List Action}

/-- The turn at which a candidate is not lost to another comes no later than any other such turn. -/
theorem LostBefore.le {n m : Nat} {b : Action} (h : LostBefore gaps s queue n)
    (hb : queue[m]? = some b) (hstay : ¬ MovedOn (others gaps s (m + 1)) b) : n ≤ m :=
  Nat.not_lt.1 fun hlt => hstay (h m b hlt hb)

/-- A call that ends well meets no candidate that is gone. -/
theorem Ends.not_meets {outcome : Option Action} {final : ActionStore}
    (h : Ends gaps clock s queue (.ok outcome, final)) (n : Nat) (a : Action) :
    ¬ Meets gaps s queue n a := by
  rintro ⟨ha, hgone, hlost⟩
  cases h with
  | exhausted hall =>
      have hn : n < queue.length := (List.getElem?_eq_some_iff.1 ha).1
      exact (hall n a hn ha).not_gone hgone
  | @got m b c _ hb hc hnew _ hbefore =>
      have hle : n ≤ m := hlost.le hb fun hmoved => hmoved.not_stillNew ⟨c, hc, hnew⟩
      have hge : m ≤ n := hbefore.le ha fun hmoved => hmoved.not_gone hgone
      obtain rfl : n = m := Nat.le_antisymm hle hge
      rw [ha, Option.some.injEq] at hb
      subst hb
      rw [Gone, hc] at hgone
      cases hgone

/-- A call that ends well has got an action exactly if one of its candidates was still new at its
turn. -/
theorem Ends.isSome_iff {outcome : Option Action} {final : ActionStore}
    (h : Ends gaps clock s queue (.ok outcome, final)) :
    outcome.isSome ↔ ∃ n a, queue[n]? = some a ∧ StillNew (others gaps s (n + 1)) a := by
  cases h with
  | exhausted hall =>
      simp only [Option.isSome_none, Bool.false_eq_true, false_iff]
      rintro ⟨n, a, ha, hstill⟩
      exact (hall n a (List.getElem?_eq_some_iff.1 ha).1 ha).not_stillNew hstill
  | @got n a b _ ha hb hnew =>
      simp only [Option.isSome_some, true_iff]
      exact ⟨n, a, ha, b, hb, hnew⟩

end Meeting

/-- A call amid all others and expiry ends without an error, and with an action exactly if one of
its candidates is still new when its turn comes, unless it meets a candidate that is gone. Then it
ends with an error that names this candidate, whatever comes after it in the queue. -/
theorem take_survives_iff_meets_no_gone (s : ActionStore) (pack : Pack) (name : Option String)
    (gaps : Nat → List Stroke) (clock : Nat → Timestamp) :
    ((∃ outcome final, takeAmid gaps clock s (candidates s pack name) = (.ok outcome, final) ∧
        (outcome.isSome ↔ ∃ n a, (candidates s pack name)[n]? = some a ∧
          StillNew (others gaps s (n + 1)) a)) ↔
      ¬ ∃ n a, Meets gaps s (candidates s pack name) n a) ∧
    ∀ n a, Meets gaps s (candidates s pack name) n a →
      takeAmid gaps clock s (candidates s pack name) =
        (.error (.actionNotFound a.id), others gaps s (n + 1)) := by
  have hends := takeAmid_cases gaps clock s fun a (ha : a ∈ candidates s pack name) =>
    candidates_new ha
  generalize candidates s pack name = queue at hends ⊢
  generalize takeAmid gaps clock s queue = result at hends ⊢
  refine ⟨⟨?_, fun hnone => ?_⟩, fun n a hmeets => ?_⟩
  · rintro ⟨outcome, final, rfl, -⟩ ⟨n, a, hmeets⟩
    exact hends.not_meets n a hmeets
  · obtain ⟨outcome | outcome, final⟩ := result
    · cases hends with
      | @stopped n a ha hgone hlost => exact absurd ⟨n, a, ha, hgone, hlost⟩ hnone
    · exact ⟨outcome, final, rfl, hends.isSome_iff⟩
  · obtain ⟨outcome | outcome, final⟩ := result
    · cases hends with
      | @stopped m b hb hgone hlost =>
          obtain ⟨ha, hthere, hbefore⟩ := hmeets
          have hle : n ≤ m := hbefore.le hb fun hmoved => hmoved.not_gone hgone
          have hge : m ≤ n := hlost.le ha fun hmoved => hmoved.not_gone hthere
          obtain rfl : n = m := Nat.le_antisymm hle hge
          rw [ha, Option.some.injEq] at hb
          rw [hb]
    · exact absurd hmeets (hends.not_meets n a)

/-- A second chore, a hundred seconds younger than the first. -/
def youngChore : Action := { chore "2" with state := ⟨.new, ⟨100, 0⟩⟩ }

def oldAndYoung : ActionStore := endure ∅ [.add (chore "1"), .add youngChore]

/-- What is older than fifty seconds expires just before the first attempt. -/
def purge : Nat → List Stroke
  | 0 => [.expire ⟨110, 0⟩ 50]
  | _ => []

/-- The first chore expires after the call has read it. The second one is still new, but the call
fails before its turn. -/
theorem take_stopped_by_expired_chore :
    candidates oldAndYoung cook none = [chore "1", youngChore] ∧
    StillNew (others purge oldAndYoung 2) youngChore ∧
    takeAmid purge (fun _ => ⟨110, 0⟩) oldAndYoung (candidates oldAndYoung cook none) =
      (.error (.actionNotFound "1"), others purge oldAndYoung 1) := by
  have hqueue : candidates oldAndYoung cook none = [chore "1", youngChore] := by
    rw [candidates_of_ordered (by decide +kernel)]
    decide +kernel
  have hclaim : claim (endure oldAndYoung (purge 0)) (chore "1") ⟨110, 0⟩ =
      .error (.actionNotFound "1") :=
    (claim_eq_error rfl).2 (.inl ⟨by decide +kernel, rfl⟩)
  refine ⟨hqueue, ⟨youngChore, by decide +kernel, rfl⟩, ?_⟩
  simp only [hqueue, takeAmid, hclaim]
  rfl

end Broker

end Orchestrator
