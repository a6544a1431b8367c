import Orchestrator.Proofs.Api.Serving
import Orchestrator.Proofs.Dict

/-!
Requests that are refused leave everything as it was, except that a pack may count as seen.

Some steps of a handling never change anything but that. What else there is to a handler comes after
its last chance to refuse: it only ever writes and then answers with a success.
-/

namespace Orchestrator.Api

open Http (Request Response)

variable {α β : Type}

/-! ## What is spared -/

/-- A pack, apart from when it was last seen. -/
def unseen (p : Pack) : Pack := { p with lastSeen := default }

/-- All that two hubs may differ in is when packs were last seen, and how much of the supply is
used. -/
structure Spared (s s' : Hub) : Prop where
  packs : ∀ id, (s'.packs.get? id).map unseen = (s.packs.get? id).map unseen
  flows : s'.flows = s.flows
  actions : s'.actions = s.actions
  data : s'.data = s.data
  reports : s'.reports = s.reports
  assignments : s'.assignments = s.assignments
  mode : s'.mode = s.mode
  supply : s'.supply = s.supply

namespace Spared

theorem refl (s : Hub) : Spared s s :=
  ⟨fun _ => rfl, rfl, rfl, rfl, rfl, rfl, rfl, rfl⟩

theorem trans {s s' s'' : Hub} (h : Spared s s') (h' : Spared s' s'') : Spared s s'' where
  packs id := (h'.packs id).trans (h.packs id)
  flows := h'.flows.trans h.flows
  actions := h'.actions.trans h.actions
  data := h'.data.trans h.data
  reports := h'.reports.trans h.reports
  assignments := h'.assignments.trans h.assignments
  mode := h'.mode.trans h.mode
  supply := h'.supply.trans h.supply

end Spared

theorem unseen_touch (packs : PackStore) (id : String) (moment : Timestamp) (key : String) :
    ((packs.touch id moment).2.get? key).map unseen = (packs.get? key).map unseen := by
  unfold PackStore.touch
  cases hpack : packs.get? id with
  | none => rfl
  | some p =>
      rw [Dict.get?_insert]
      by_cases hkey : key = id
      · subst hkey
        rw [if_pos rfl, hpack]
        rfl
      · rw [if_neg hkey]

/-! ## Steps that spare everything, and handlers that do so if they refuse -/

def Harmless (x : Handling α) : Prop := ∀ s, Spared s (x.run s).2

/-- A handling that is answered with the status of an error spares everything. -/
def Careful (x : Handling Response) : Prop :=
  ∀ s, 400 ≤ (outgoing false (x.run s).1).status → Spared s (x.run s).2

theorem Harmless.bind {x : Handling α} {f : α → Handling β} (hx : Harmless x)
    (hf : ∀ a, Harmless (f a)) : Harmless (x >>= f) :=
  run_bind_of_trans Spared Spared.trans hx hf

theorem Looks.harmless {x : Handling α} (h : Looks x) : Harmless x := by
  intro s
  obtain ⟨used, hrun⟩ := h s
  rw [hrun]
  exact ⟨fun _ => rfl, rfl, rfl, rfl, rfl, rfl, rfl, rfl⟩

theorem Harmless.bind_careful {x : Handling α} {f : α → Handling Response} (hx : Harmless x)
    (hf : ∀ a, Careful (f a)) : Careful (x >>= f) := by
  intro s
  have hfirst := hx s
  rw [run_bind]
  generalize x.run s = ended at hfirst
  obtain ⟨outcome, t⟩ := ended
  cases outcome with
  | error e => exact fun _ => hfirst
  | ok a => exact fun hrefused => hfirst.trans (hf a t hrefused)

theorem Harmless.careful {x : Handling Response} (hx : Harmless x) : Careful x := fun s _ => hx s

/-- What ends with a success may change whatever it likes. -/
theorem careful_of_success {x : Handling Response} {n : Nat} (hn : n < 400)
    (h : ∀ s, ∃ response after, x.run s = (.ok response, after) ∧ response.status = n) :
    Careful x := by
  intro s hrefused
  obtain ⟨response, after, hrun, hstatus⟩ := h s
  rw [hrun, outgoing_ok_status, hstatus] at hrefused
  omega

theorem harmless_throw (r : Response) : Harmless (throw r : Handling α) := (looks_throw r).harmless

theorem harmless_get : Harmless get := looks_get.harmless

theorem harmless_accept (x : Except Failure α) : Harmless (accept x) := (looks_accept x).harmless

theorem harmless_perform (x : Except Error α) : Harmless (perform x) := harmless_accept _

theorem harmless_draw : Harmless draw := looks_draw.harmless

theorem harmless_caller (id : String) : Harmless (caller id) := by
  intro s
  unfold caller
  simp only [run_bind, run_get, run_perform, Hub.seen]
  cases s.packs.require id with
  | error e => exact .refl s
  | ok pack => exact ⟨unseen_touch s.packs pack.id _, rfl, rfl, rfl, rfl, rfl, rfl, rfl⟩

/-! ## Handlers -/

theorem careful_registerPack (r : Request) : Careful (registerPack r) := by
  refine (harmless_accept _).bind_careful fun registration => ?_
  refine harmless_draw.bind_careful fun stamp => (harmless_accept _).bind_careful fun pack => ?_
  exact careful_of_success (n := 201) (by decide) fun _ => ⟨_, _, rfl, rfl⟩

theorem careful_deletePack (id : String) : Careful (deletePack id) := by
  refine harmless_get.bind_careful fun _ => (harmless_perform _).bind_careful fun packs => ?_
  exact careful_of_success (n := 204) (by decide) fun _ => ⟨_, _, rfl, rfl⟩

theorem careful_publishEvent (id : String) (r : Request) : Careful (publishEvent id r) := by
  refine (harmless_accept _).bind_careful fun message => ?_
  refine (harmless_caller id).bind_careful fun pack => harmless_draw.bind_careful fun stamp => ?_
  refine (harmless_accept _).bind_careful fun event => ?_
  exact careful_of_success (n := 202) (by decide) fun _ => ⟨_, _, rfl, rfl⟩

theorem careful_takeAction (id : String) (r : Request) : Careful (takeAction id r) := by
  refine (looks_takeQuery _).harmless.bind_careful fun query => ?_
  refine (harmless_caller id).bind_careful fun pack => harmless_draw.bind_careful fun stamp => ?_
  refine harmless_get.bind_careful fun _ => (harmless_perform _).bind_careful fun taken => ?_
  obtain ⟨_ | action, actions⟩ := taken
  · exact careful_of_success (n := 204) (by decide) fun _ => ⟨_, _, rfl, rfl⟩
  · exact careful_of_success (n := 200) (by decide) fun _ => ⟨_, _, rfl, rfl⟩

theorem careful_completeAction (id actionId : String) (r : Request) :
    Careful (completeAction id actionId r) := by
  refine (harmless_accept _).bind_careful fun message => ?_
  refine (harmless_caller id).bind_careful fun pack => harmless_draw.bind_careful fun stamp => ?_
  refine (harmless_accept _).bind_careful fun result => harmless_get.bind_careful fun _ => ?_
  refine (harmless_perform _).bind_careful fun completed => ?_
  obtain ⟨_ | action, actions⟩ := completed
  all_goals exact careful_of_success (n := 202) (by decide) fun _ => ⟨_, _, rfl, rfl⟩

theorem careful_registerFlow (r : Request) : Careful (registerFlow r) := by
  refine (harmless_accept _).bind_careful fun flow => (harmless_perform _).bind_careful fun _ => ?_
  refine harmless_draw.bind_careful fun stamp => ?_
  exact careful_of_success (n := 201) (by decide) fun _ => ⟨_, _, rfl, rfl⟩

/-- Nothing is lost by removing what is not there. -/
theorem careful_deleteFlow (name : String) : Careful (deleteFlow name) := by
  intro s hrefused
  cases hfound : s.flows.latest.contains name with
  | true =>
      have hrun : (deleteFlow name).run s =
          (.ok noContent, { s with flows := (s.flows.remove name).2 }) := by
        simp only [deleteFlow, run_bind, run_get, run_modify, FlowStore.remove, hfound]
        rfl
      rw [hrun] at hrefused
      exact absurd (show 400 ≤ 204 from hrefused) (by decide)
  | false =>
      have hsame : (s.flows.remove name).2 = s.flows := by
        simp only [FlowStore.remove, Dict.erase_eq_self (Dict.contains_eq_false.1 hfound)]
      have hrun : ((deleteFlow name).run s).2 = { s with flows := (s.flows.remove name).2 } := by
        simp only [deleteFlow, run_bind, run_get, run_modify, FlowStore.remove, hfound]
        rfl
      rw [hrun, hsame]
      exact .refl s

theorem careful_deleteData (key : String) : Careful (deleteData key) := by
  intro s hrefused
  rw [run_deleteData] at hrefused ⊢
  cases hfound : s.data.contains key with
  | true =>
      rw [hfound] at hrefused
      exact absurd (show 400 ≤ 204 from hrefused) (by decide)
  | false =>
      rw [Dict.erase_eq_self (Dict.contains_eq_false.1 hfound)]
      exact .refl s

theorem careful_putData (key : String) (r : Request) : Careful (putData key r) := by
  intro s hrefused
  rcases putData_cases key r s with ⟨response, hrun, -⟩ | ⟨value, -, hrun⟩
  · rw [hrun]
    exact .refl s
  · rw [hrun _ rfl, outgoing_ok_status] at hrefused
    split at hrefused
    · exact absurd (show 400 ≤ 204 from hrefused) (by decide)
    · exact absurd (show 400 ≤ 201 from hrefused) (by decide)

theorem careful_handle (resource : Resource) (method : String) (r : Request) :
    Careful (handle resource method r) := by
  unfold handle
  split
  · exact (looks_pure _).harmless.careful
  · exact (looks_pure _).harmless.careful
  · exact looks_listPacks.harmless.careful
  · exact careful_registerPack r
  · exact (looks_getPack _).harmless.careful
  · exact careful_deletePack _
  · exact careful_publishEvent _ r
  · exact careful_takeAction _ r
  · exact careful_completeAction _ _ r
  · exact looks_listFlows.harmless.careful
  · exact careful_registerFlow r
  · exact (looks_getFlow _).harmless.careful
  · exact careful_deleteFlow _
  · exact looks_listDataKeys.harmless.careful
  · exact (looks_getData _).harmless.careful
  · exact careful_putData _ r
  · exact careful_deleteData _
  · exact (harmless_throw _).careful

theorem careful_route (r : Request) : Careful (route r) := by
  unfold route
  split
  · dsimp only
    split
    · refine (harmless_throw _).bind_careful fun _ => ?_
      split
      · exact careful_handle _ _ r
      · exact (harmless_throw _).careful
    · split
      · exact careful_handle _ _ r
      · exact (harmless_throw _).careful
  · exact (harmless_accept _).careful

theorem answer_status (s : Hub) (r : Request) :
    (answer s r).1.status = (outgoing false ((route r).run s).1).status ∧
      (answer s r).2 = ((route r).run s).2 := by
  unfold answer
  cases (route r).run s with
  | mk outcome after =>
      refine ⟨?_, rfl⟩
      cases outcome <;> cases isForHead r <;> rfl

/-- A request that is answered with the status of an error leaves all flows, actions and data as
they were, leaves nothing more to be dispatched, and leaves the packs as they were apart from when
they were last seen. -/
theorem refused_spares (shared : Bool) (s : Hub) (r : Request)
    (h : 400 ≤ (serve shared s r).1.status) : Spared s (serve shared s r).2 := by
  have hanswer : 400 ≤ (answer s r).1.status → Spared s (answer s r).2 := by
    obtain ⟨hstatus, hafter⟩ := answer_status s r
    rw [hstatus, hafter]
    exact careful_route r s
  cases shared with
  | false => exact hanswer h
  | true =>
      cases hoptions : r.method == "OPTIONS" with
      | true =>
          have hserve : (serve true s r).2 = s := by simp [serve, hoptions]
          rw [hserve]
          exact .refl s
      | false =>
          have hserve : (serve true s r).1.status = (answer s r).1.status ∧
              (serve true s r).2 = (answer s r).2 := by
            simp [serve, hoptions]
          rw [hserve.1] at h
          rw [hserve.2]
          exact hanswer h

/-- A pack is registered, and nobody has seen it yet. -/
def staffed : Hub :=
  let kitchen : Pack := { (default : Pack) with id := "kitchen", name := "kitchen" }
  { Hub.empty .any fun n => ⟨default, ⟨n + 1, 0⟩⟩ with packs := .insert ∅ "kitchen" kitchen }

/-- The pack publishes an event that has no name. -/
def nameless : Request where
  method := "POST"
  path := "/v1/packs/kitchen/events"
  query := none
  contentType := none
  body := "\x7b\"event\":\" \"\x7d".toUTF8

/-- The pack has now been seen, and nothing else has happened. -/
theorem nameless_refused :
    (serve true staffed nameless).1.status = 400 ∧
      ((serve true staffed nameless).2.packs.get? "kitchen").map Pack.lastSeen = some ⟨1, 0⟩ ∧
      Spared staffed (serve true staffed nameless).2 := by
  have hstatus : (serve true staffed nameless).1.status = 400 := by decide +kernel
  have hseen : ((serve true staffed nameless).2.packs.get? "kitchen").map Pack.lastSeen =
      some ⟨1, 0⟩ := by
    decide +kernel
  have hrefused : 400 ≤ (serve true staffed nameless).1.status := Nat.le_of_eq hstatus.symm
  exact ⟨hstatus, hseen, refused_spares true staffed nameless hrefused⟩

end Orchestrator.Api
