import Orchestrator.Api.Service
import Orchestrator.Proofs.Api.Handling

/-!
What requests do to the flows, to the actions and to what is left to be dispatched. Most of them do
nothing to these. The others register a valid flow as a new version, remove one, report an event, or
take or complete an action, and whatever they do besides is no concern of the runs.
-/

namespace Orchestrator.Api

open Http (Request Response)

variable {α β : Type}

/-- What one request may make of the hub. -/
inductive Change (s : Hub) : Hub → Prop where
  | none {packs : PackStore} {data : DataStore} {used : Nat} : Change s { s with packs, data, used }
  | registered {flow : FlowDefinition} {n : Nat} {packs : PackStore} {data : DataStore} {used : Nat}
      (hvalid : flow.validate = .ok ()) :
      Change s { s with
        packs, data, used
        flows := (s.flows.add { flow with uuid := .none } (s.supply n).uuid).2 }
  | removed {name : String} {packs : PackStore} {data : DataStore} {used : Nat} :
      Change s { s with packs, data, used, flows := (s.flows.remove name).2 }
  | published {event : Event} {packs : PackStore} {data : DataStore} {used : Nat} :
      Change s { s with packs, data, used, reports := s.reports ++ [.published event] }
  | took {pack : Pack} {name : Option String} {now : Timestamp} {taken : Option Action}
      {actions : ActionStore} {packs : PackStore} {data : DataStore} {used : Nat}
      (htake : Broker.take s.actions pack name now = .ok (taken, actions)) :
      Change s { s with packs, data, used, actions }
  | completed {pack : Pack} {id : String} {result : Event} {now : Timestamp} {a : Action}
      {actions : ActionStore} {packs : PackStore} {data : DataStore} {used : Nat}
      (hown : result.pack = .ofPack pack)
      (hcomplete : Broker.complete s.actions pack id result now = .ok (some a, actions)) :
      Change s { s with packs, data, used, actions, reports := s.reports ++ [.completed a] }

/-- A handling leaves flows, actions and reports alone. -/
def Quiet (x : Handling α) : Prop :=
  ∀ s, ∃ packs data used, (x.run s).2 = { s with packs, data, used }

/-- A handling makes one change at most. -/
def ChangesOnce (x : Handling α) : Prop := ∀ s, Change s (x.run s).2

theorem Change.of_packs {s s' : Hub} {packs : PackStore} {data : DataStore} {used : Nat}
    (h : Change { s with packs, data, used } s') : Change s s' := by
  cases h with
  | none => exact .none
  | registered hvalid => exact .registered hvalid
  | removed => exact .removed
  | published => exact .published
  | took htake => exact .took htake
  | completed hown hcomplete => exact .completed hown hcomplete

theorem Change.then_packs {s s' : Hub} (h : Change s s') (packs : PackStore) (data : DataStore)
    (used : Nat) : Change s { s' with packs, data, used } := by
  cases h with
  | none => exact .none
  | registered hvalid => exact .registered hvalid
  | removed => exact .removed
  | published => exact .published
  | took htake => exact .took htake
  | completed hown hcomplete => exact .completed hown hcomplete

theorem Looks.quiet {x : Handling α} (h : Looks x) : Quiet x := by
  intro s
  obtain ⟨used, hrun⟩ := h s
  exact ⟨s.packs, s.data, used, hrun⟩

theorem Quiet.changesOnce {x : Handling α} (h : Quiet x) : ChangesOnce x := by
  intro s
  obtain ⟨packs, data, used, hrun⟩ := h s
  rw [hrun]
  exact .none

theorem Quiet.bind {x : Handling α} {f : α → Handling β} (hx : Quiet x) (hf : ∀ a, Quiet (f a)) :
    Quiet (x >>= f) := by
  intro s
  obtain ⟨packs, data, used, hrun⟩ := hx s
  rw [run_bind]
  generalize x.run s = ended at hrun
  obtain ⟨result, _⟩ := ended
  subst hrun
  cases result with
  | error e => exact ⟨packs, data, used, rfl⟩
  | ok a => exact hf a _

/-- What comes before the change may be left out of account, -/
theorem Quiet.bind_changesOnce {x : Handling α} {f : α → Handling β} (hx : Quiet x)
    (hf : ∀ a, ChangesOnce (f a)) : ChangesOnce (x >>= f) := by
  intro s
  obtain ⟨packs, data, used, hrun⟩ := hx s
  rw [run_bind]
  generalize x.run s = ended at hrun
  obtain ⟨result, _⟩ := ended
  subst hrun
  cases result with
  | error e => exact .none
  | ok a => exact (hf a _).of_packs

/-- and so may what comes after it. -/
theorem ChangesOnce.bind_quiet {x : Handling α} {f : α → Handling β} (hx : ChangesOnce x)
    (hf : ∀ a, Quiet (f a)) : ChangesOnce (x >>= f) := by
  intro s
  have hchange := hx s
  rw [run_bind]
  generalize x.run s = ended at hchange
  obtain ⟨result, t⟩ := ended
  cases result with
  | error e => exact hchange
  | ok a =>
      obtain ⟨packs, data, used, hrun⟩ := hf a t
      rw [hrun]
      exact hchange.then_packs packs data used

/-! ## Steps of handlings -/

theorem quiet_pure (a : α) : Quiet (pure a) := (looks_pure a).quiet

theorem quiet_throw (r : Response) : Quiet (throw r : Handling α) := (looks_throw r).quiet

theorem quiet_get : Quiet get := looks_get.quiet

theorem quiet_accept (x : Except Failure α) : Quiet (accept x) := (looks_accept x).quiet

theorem quiet_perform (x : Except Error α) : Quiet (perform x) := quiet_accept _

theorem quiet_draw : Quiet draw := looks_draw.quiet

theorem quiet_caller (id : String) : Quiet (caller id) := by
  intro s
  rcases run_caller id s with ⟨e, -, hrun⟩ | ⟨pack, packs, used, -, hrun⟩
  · exact ⟨s.packs, s.data, s.used, by rw [hrun]⟩
  · exact ⟨packs, s.data, used, by rw [hrun]⟩

/-! ## Handlings without a change -/

theorem quiet_registerPack (r : Request) : Quiet (registerPack r) := by
  refine (quiet_accept _).bind fun registration => quiet_draw.bind fun stamp => ?_
  refine (quiet_accept _).bind fun pack => Quiet.bind ?_ fun pack => quiet_pure _
  exact fun s => ⟨(s.packs.register pack stamp.time).2, s.data, s.used, rfl⟩

theorem quiet_deletePack (id : String) : Quiet (deletePack id) := by
  refine quiet_get.bind fun _ => (quiet_perform _).bind fun packs => Quiet.bind ?_ fun _ =>
    quiet_pure _
  exact fun s => ⟨packs, s.data, s.used, rfl⟩

theorem quiet_putData (key : String) (r : Request) : Quiet (putData key r) := by
  have hput (entry : DataEntry) : Quiet (modifyGet fun s : Hub =>
      ((s.data.put entry).1, { s with data := (s.data.put entry).2 }) : Handling Bool) :=
    fun s => ⟨s.packs, (s.data.put entry).2, s.used, rfl⟩
  unfold putData
  split
  · dsimp only
    split
    · refine (quiet_throw _).bind fun _ => ?_
      exact quiet_draw.bind fun _ => (hput _).bind fun _ => quiet_pure _
    · exact quiet_draw.bind fun _ => (hput _).bind fun _ => quiet_pure _
  · dsimp only
    split
    · exact (quiet_throw _).bind fun _ => quiet_accept _
    · exact quiet_accept _

theorem quiet_deleteData (key : String) : Quiet (deleteData key) := by
  refine quiet_get.bind fun s => Quiet.bind ?_ fun _ => ?_
  · exact fun t => ⟨t.packs, (DataStore.remove s.data key).2, t.used, rfl⟩
  · split
    · exact quiet_pure _
    · exact quiet_perform _

/-! ## Handlings with a change -/

theorem changesOnce_publishEvent (id : String) (r : Request) : ChangesOnce (publishEvent id r) := by
  refine (quiet_accept _).bind_changesOnce fun message => ?_
  refine (quiet_caller id).bind_changesOnce fun pack => quiet_draw.bind_changesOnce fun stamp => ?_
  refine (quiet_accept _).bind_changesOnce fun event => ?_
  refine ChangesOnce.bind_quiet ?_ fun _ => quiet_pure _
  exact fun s => .published

theorem changesOnce_takeAction (id : String) (r : Request) : ChangesOnce (takeAction id r) := by
  refine (looks_takeQuery _).quiet.bind_changesOnce fun query => ?_
  refine (quiet_caller id).bind_changesOnce fun pack => quiet_draw.bind_changesOnce fun stamp => ?_
  intro s
  simp only [run_bind, run_get, run_perform]
  cases htake : Broker.take s.actions pack query.actionName stamp.time with
  | error e => exact .none
  | ok result =>
      obtain ⟨_ | taken, actions⟩ := result
      · exact .took htake
      · exact .took htake

theorem changesOnce_completeAction (id actionId : String) (r : Request) :
    ChangesOnce (completeAction id actionId r) := by
  refine (quiet_accept _).bind_changesOnce fun message => ?_
  refine (quiet_caller id).bind_changesOnce fun pack => quiet_draw.bind_changesOnce fun stamp => ?_
  intro s
  simp only [run_bind, run_accept]
  cases hresult : message.toEvent pack stamp.time with
  | error e => exact .none
  | ok result =>
  have hown : result.pack = .ofPack pack := by
    rw [(toEvent_eq_ok.1 hresult).2]
    rfl
  simp only [mapError_ok, run_get, run_perform]
  cases hcomplete : Broker.complete s.actions pack actionId result stamp.time with
  | error e => exact .none
  | ok completed =>
      obtain ⟨_ | a, actions⟩ := completed
      · obtain rfl := Broker.eq_of_complete_none hcomplete
        exact .none
      · exact .completed hown hcomplete

theorem changesOnce_registerFlow (r : Request) : ChangesOnce (registerFlow r) := by
  refine (quiet_accept _).bind_changesOnce fun flow => ?_
  intro s
  simp only [run_bind, run_perform]
  cases hvalid : flow.validate with
  | error e => exact .none
  | ok _ => exact .registered hvalid

theorem changesOnce_deleteFlow (name : String) : ChangesOnce (deleteFlow name) := by
  intro s
  simp only [deleteFlow, run_bind, run_get, run_modify]
  split
  · exact .removed
  · exact .removed

/-! ## Requests -/

theorem changesOnce_handle (resource : Resource) (method : String) (r : Request) :
    ChangesOnce (handle resource method r) := by
  unfold handle
  split
  · exact (quiet_pure _).changesOnce
  · exact (quiet_pure _).changesOnce
  · exact looks_listPacks.quiet.changesOnce
  · exact (quiet_registerPack r).changesOnce
  · exact (looks_getPack _).quiet.changesOnce
  · exact (quiet_deletePack _).changesOnce
  · exact changesOnce_publishEvent _ r
  · exact changesOnce_takeAction _ r
  · exact changesOnce_completeAction _ _ r
  · exact looks_listFlows.quiet.changesOnce
  · exact changesOnce_registerFlow r
  · exact (looks_getFlow _).quiet.changesOnce
  · exact changesOnce_deleteFlow _
  · exact looks_listDataKeys.quiet.changesOnce
  · exact (looks_getData _).quiet.changesOnce
  · exact (quiet_putData _ r).changesOnce
  · exact (quiet_deleteData _).changesOnce
  · exact (quiet_throw _).changesOnce

theorem changesOnce_route (r : Request) : ChangesOnce (route r) := by
  unfold route
  split
  · dsimp only
    split
    · refine (quiet_throw _).bind_changesOnce fun _ => ?_
      split
      · exact changesOnce_handle _ _ r
      · exact (quiet_throw _).changesOnce
    · split
      · exact changesOnce_handle _ _ r
      · exact (quiet_throw _).changesOnce
  · exact (quiet_accept _).changesOnce

/-- A request makes one change at most, whether or not browsers may send it from any origin. -/
theorem change_serve (shared : Bool) (s : Hub) (r : Request) : Change s (serve shared s r).2 := by
  have hanswer : Change s (answer s r).2 := changesOnce_route r s
  unfold serve
  split
  · exact hanswer
  · dsimp only
    split
    · exact .none
    · exact hanswer

/-! ## Requests for one resource -/

/-- A request asks a resource to take something in. -/
structure Asks (r : Request) (resource : Resource) : Prop where
  method : r.method = "POST"
  path : ∃ sent, Resource.ofPath? r.path = some sent ∧ sent.unescaped = .ok resource

theorem methods_of_unescaped {sent resource : Resource} (h : sent.unescaped = .ok resource) :
    resource.methods = sent.methods := by
  cases sent with
  | health | info | packs | flows | dataKeys =>
      obtain rfl := Except.ok.inj h
      rfl
  | pack _ | packEvents _ | takeAction _ | flow _ | dataEntry _ =>
      simp only [Resource.unescaped, Functor.map, Except.map] at h
      split at h
      · cases h
      · obtain rfl := Except.ok.inj h
        rfl
  | actionResult id actionId =>
      simp only [Resource.unescaped, Functor.map, Seq.seq, Except.map] at h
      cases hid : Resource.unescape "id" id <;>
        cases hactionId : Resource.unescape "action_id" actionId <;>
          simp [hid, hactionId, Except.bind] at h
      rw [← h]
      rfl

/-- A resource handles the requests whose method it has. -/
theorem run_route_of_readable {r : Request} {sent resource : Resource}
    (hsent : Resource.ofPath? r.path = some sent) (hresource : sent.unescaped = .ok resource)
    (hmethod : sent.methods.contains r.method = true) (s : Hub) :
    (route r).run s =
      (handle resource (if r.method == "HEAD" then "GET" else r.method) r).run s := by
  unfold route
  simp only [hsent, hmethod, hresource]
  rfl

theorem run_route_of_path {r : Request} {sent resource : Resource}
    (hsent : Resource.ofPath? r.path = some sent) (hresource : sent.unescaped = .ok resource)
    (hmethod : resource.methods.contains r.method = true) (hhead : r.method ≠ "HEAD") (s : Hub) :
    (route r).run s = (handle resource r.method r).run s := by
  rw [methods_of_unescaped hresource] at hmethod
  have hread : (if r.method == "HEAD" then "GET" else r.method) = r.method := by simp [hhead]
  rw [run_route_of_readable hsent hresource hmethod, hread]

theorem run_route {r : Request} {resource : Resource} (h : Asks r resource)
    (hpost : resource.methods.contains "POST" = true) (s : Hub) :
    (route r).run s = (handle resource "POST" r).run s := by
  obtain ⟨hmethod, sent, hsent, hresource⟩ := h
  rw [← hmethod] at hpost ⊢
  exact run_route_of_path hsent hresource hpost (by simp [hmethod]) s

theorem run_route_of_no_path {r : Request} (hpath : Resource.ofPath? r.path = none) (s : Hub) :
    (route r).run s = (.error (refusal (.notFound "Not found")), s) := by
  unfold route
  rw [hpath]
  rfl

theorem run_route_of_unreadable {r : Request} {sent : Resource} {calledAs : String}
    (hsent : Resource.ofPath? r.path = some sent) (hresource : sent.unescaped = .error calledAs)
    (hmethod : sent.methods.contains r.method = true) (s : Hub) :
    (route r).run s = (.error (.plain 400
      ("Invalid URL: Invalid UTF-8 in " ++ DecodeError.ticked calledAs)), s) := by
  unfold route
  simp only [hsent, hmethod, hresource]
  rfl

theorem run_route_of_no_method {r : Request} {sent : Resource}
    (hsent : Resource.ofPath? r.path = some sent)
    (hmethod : sent.methods.contains r.method = false) (s : Hub) :
    (route r).run s = (.error (.empty 405), s) := by
  unfold route
  simp only [hsent, hmethod]
  rfl

/-- What the service sends for what a handling ends with. -/
def outgoing (shared : Bool) (outcome : Except Response Response) : Response :=
  let response := match outcome with
    | .ok response | .error response => response
  if shared then { response with allowOrigin := some "*" } else response

@[simp] theorem outgoing_ok_status (shared : Bool) (response : Response) :
    (outgoing shared (.ok response)).status = response.status := by
  cases shared <;> rfl

@[simp] theorem outgoing_error_status (shared : Bool) (response : Response) :
    (outgoing shared (.error response)).status = response.status := by
  cases shared <;> rfl

theorem serve_eq_outgoing {r : Request} (hhead : r.method ≠ "HEAD")
    (hoptions : r.method ≠ "OPTIONS") (shared : Bool) (s : Hub) :
    serve shared s r = (outgoing shared ((route r).run s).1, ((route r).run s).2) := by
  have hanswer : answer s r = (outgoing false ((route r).run s).1, ((route r).run s).2) := by
    unfold answer
    cases (route r).run s with
    | mk outcome after => cases outcome <;> simp [isForHead, hhead, outgoing]
  unfold serve
  cases shared with
  | false => exact hanswer
  | true => simp [hoptions, hanswer, outgoing]

/-- Whether or not browsers may send it from any origin, the request is handled, and answered with the
status that the handling ends with. -/
theorem serve_eq {r : Request} {resource : Resource} (h : Asks r resource)
    (hpost : resource.methods.contains "POST" = true) (shared : Bool) (s : Hub) :
    (serve shared s r).2 = ((handle resource "POST" r).run s).2 ∧
      ∀ response, ((handle resource "POST" r).run s).1 = .ok response →
        (serve shared s r).1.status = response.status := by
  rw [serve_eq_outgoing (by simp [h.method]) (by simp [h.method]), run_route h hpost]
  refine ⟨rfl, fun response hresponse => ?_⟩
  rw [hresponse, outgoing]
  cases shared <;> rfl

end Orchestrator.Api
