import Orchestrator.Api.Handler
import Orchestrator.Proofs.Broker.Attempt

/-!
How a handling runs: step after step, until one of them ends it with an error. What was done before
an error stays done. A request with a result is handled so that exactly what it completes is left to
be dispatched.
-/

namespace Orchestrator.Api

open Http (Request Response)

variable {α β : Type}

/-- Goes on with what a step of a handling gives, unless that is an error. -/
theorem run_bind (x : Handling α) (f : α → Handling β) (s : Hub) :
    (x >>= f).run s = match x.run s with
      | (.ok a, s) => (f a).run s
      | (.error e, s) => (.error e, s) := by
  simp only [bind, ExceptT.bind, ExceptT.run, ExceptT.mk, StateT.bind]
  cases x s with
  | mk result next => cases result <;> rfl

@[simp] theorem run_pure (a : α) (s : Hub) : (pure a : Handling α).run s = (.ok a, s) := rfl

@[simp] theorem run_get (s : Hub) : (get : Handling Hub).run s = (.ok s, s) := rfl

@[simp] theorem run_set (s t : Hub) : (set t : Handling PUnit).run s = (.ok ⟨⟩, t) := rfl

@[simp] theorem run_modify (f : Hub → Hub) (s : Hub) :
    (modify f : Handling PUnit).run s = (.ok ⟨⟩, f s) := rfl

theorem run_modifyGet (f : Hub → α × Hub) (s : Hub) :
    (modifyGet f : Handling α).run s = (.ok (f s).1, (f s).2) := rfl

theorem mapError_ok {ε ε' : Type} (f : ε → ε') (a : α) :
    (Except.ok a : Except ε α).mapError f = .ok a := rfl

theorem run_accept (x : Except Failure α) (s : Hub) :
    (accept x).run s = (x.mapError refusal, s) := rfl

theorem run_perform (x : Except Error α) (s : Hub) :
    (perform x).run s = (x.mapError fun e => refusal (.ofError e), s) := by
  cases x <;> rfl

theorem run_draw (s : Hub) : draw.run s = (.ok s.draw.1, s.draw.2) := rfl

theorem run_takeQuery_of_few {query : Option String} (hfew : (commandsAsked query).length ≤ 1)
    (s : Hub) : ∃ wanted, (takeQuery query).run s = (.ok wanted, s) := by
  unfold takeQuery
  generalize commandsAsked query = asked at hfew
  match asked with
  | [] => exact ⟨_, rfl⟩
  | [_] => exact ⟨_, rfl⟩
  | _ :: _ :: _ => simp at hfew

theorem run_takeQuery_of_many {query : Option String} (hmany : 1 < (commandsAsked query).length)
    (s : Hub) : (takeQuery query).run s =
      (.error (.plain 400 ("Failed to deserialize query string: " ++
        (DecodeError.duplicateField "actionName").message)), s) := by
  unfold takeQuery
  generalize commandsAsked query = asked at hmany
  match asked with
  | [] => simp at hmany
  | [_] => simp at hmany
  | _ :: _ :: _ => rfl

theorem run_takeQuery (query : Option String) (s : Hub) :
    ∃ result, (takeQuery query).run s = (result, s) := by
  rcases Nat.lt_or_ge 1 (commandsAsked query).length with hmany | hfew
  · exact ⟨_, run_takeQuery_of_many hmany s⟩
  · obtain ⟨wanted, hrun⟩ := run_takeQuery_of_few hfew s
    exact ⟨_, hrun⟩

/-- What each step of a handling keeps is kept by all of it. -/
theorem run_bind_of_trans (keeps : Hub → Hub → Prop)
    (htrans : ∀ {s t u}, keeps s t → keeps t u → keeps s u) {x : Handling α} {f : α → Handling β}
    (hx : ∀ s, keeps s (x.run s).2) (hf : ∀ a s, keeps s ((f a).run s).2) (s : Hub) :
    keeps s ((x >>= f).run s).2 := by
  have hfirst := hx s
  rw [run_bind]
  generalize x.run s = ended at hfirst
  obtain ⟨outcome, t⟩ := ended
  cases outcome with
  | error e => exact hfirst
  | ok a => exact htrans hfirst (hf a t)

/-! ## Handlings that only look -/

/-- A handling changes nothing, but it may look at the clock. -/
def Looks (x : Handling α) : Prop := ∀ s, ∃ used, (x.run s).2 = { s with used }

theorem Looks.bind {x : Handling α} {f : α → Handling β} (hx : Looks x) (hf : ∀ a, Looks (f a)) :
    Looks (x >>= f) := by
  refine run_bind_of_trans (fun s t => ∃ used, t = { s with used }) ?_ hx hf
  rintro s _ _ ⟨_, rfl⟩ ⟨used, rfl⟩
  exact ⟨used, rfl⟩

theorem looks_pure (a : α) : Looks (pure a) := fun s => ⟨s.used, rfl⟩

theorem looks_throw (r : Response) : Looks (throw r : Handling α) := fun s => ⟨s.used, rfl⟩

theorem looks_get : Looks get := fun s => ⟨s.used, rfl⟩

theorem looks_accept (x : Except Failure α) : Looks (accept x) := fun s => ⟨s.used, rfl⟩

theorem looks_perform (x : Except Error α) : Looks (perform x) := looks_accept _

theorem looks_draw : Looks draw := fun s => ⟨s.used + 1, rfl⟩

theorem looks_takeQuery (query : Option String) : Looks (takeQuery query) := by
  intro s
  obtain ⟨result, hrun⟩ := run_takeQuery query s
  exact ⟨s.used, by rw [hrun]⟩

theorem looks_listPacks : Looks listPacks :=
  looks_draw.bind fun _ => looks_get.bind fun _ => looks_pure _

theorem looks_getPack (id : String) : Looks (getPack id) :=
  looks_draw.bind fun _ => looks_get.bind fun _ => (looks_perform _).bind fun _ => looks_pure _

theorem looks_listFlows : Looks listFlows := looks_get.bind fun _ => looks_pure _

theorem looks_getFlow (name : String) : Looks (getFlow name) := by
  refine looks_get.bind fun s => ?_
  split
  · exact looks_pure _
  · exact looks_perform _

theorem looks_listDataKeys : Looks listDataKeys := looks_get.bind fun _ => looks_pure _

theorem looks_getData (key : String) : Looks (getData key) := by
  refine looks_get.bind fun s => ?_
  split
  · exact looks_perform _
  · split <;> exact looks_pure _

/-! ## Handlings that change something -/

/-- A pack that calls is registered, and counts as seen; nothing else changes. -/
theorem run_caller (id : String) (s : Hub) :
    (∃ e, s.packs.require id = .error e ∧
      (caller id).run s = (.error (refusal (.ofError e)), s)) ∨
    ∃ pack packs used, s.packs.require id = .ok pack ∧
      (caller id).run s = (.ok pack, { s with packs, used }) := by
  unfold caller
  simp only [run_bind, run_get, run_perform, Hub.seen]
  cases hrequire : s.packs.require id with
  | error e => exact .inl ⟨e, rfl, rfl⟩
  | ok pack => exact .inr ⟨pack, _, _, rfl, rfl⟩

/-- The event of a message carries the pack that has sent it. -/
theorem toEvent_eq_ok {message : EventMessage} {pack : Pack} {now : Timestamp} {event : Event} :
    message.toEvent pack now = .ok event ↔ Text.isBlankText message.name = false ∧
      event = .new message.name pack message.payload message.created now := by
  unfold EventMessage.toEvent EventMessage.validate
  cases Text.isBlankText message.name <;> simp [Except.map, eq_comm]

/-- Who asks for an action takes one as the pack that is registered, or changes none. -/
theorem takeAction_cases (id : String) (r : Request) (s : Hub) :
    let after := ((takeAction id r).run s).2
    after.actions = s.actions ∨
      ∃ pack name now taken, s.packs.require id = .ok pack ∧
        Broker.take s.actions pack name now = .ok (taken, after.actions) := by
  simp only [takeAction, run_bind]
  obtain ⟨result, hquery⟩ := run_takeQuery r.query s
  rw [hquery]
  cases result with
  | error response => exact .inl rfl
  | ok query =>
  dsimp only
  rcases run_caller id s with ⟨e, -, hcaller⟩ | ⟨pack, packs, used, hpack, hcaller⟩
  · rw [hcaller]
    exact .inl rfl
  simp only [hcaller, run_draw, run_get, run_perform, Hub.draw]
  cases htake : Broker.take s.actions pack query.actionName (s.supply used).time with
  | error e => exact .inl rfl
  | ok taken =>
      obtain ⟨outcome, actions⟩ := taken
      cases outcome with
      | none => exact .inr ⟨pack, _, _, _, hpack, htake⟩
      | some a => exact .inr ⟨pack, _, _, _, hpack, htake⟩

/-- A request with a result either completes an action as the pack that is registered, and then it
leaves just that action to be dispatched, or it leaves all actions and all that is to be dispatched
alone. -/
theorem completeAction_cases (id actionId : String) (r : Request) (s : Hub) :
    let after := ((completeAction id actionId r).run s).2
    (after.actions = s.actions ∧ after.reports = s.reports) ∨
      ∃ pack result now a, s.packs.require id = .ok pack ∧ result.pack = .ofPack pack ∧
        Broker.complete s.actions pack actionId result now = .ok (some a, after.actions) ∧
          after.reports = s.reports ++ [.completed a] := by
  simp only [completeAction, run_bind, run_accept]
  cases hmessage : r.payload EventMessage.read with
  | error e => exact .inl ⟨rfl, rfl⟩
  | ok message =>
  simp only [mapError_ok]
  rcases run_caller id s with ⟨e, -, hcaller⟩ | ⟨pack, packs, used, hpack, hcaller⟩
  · rw [hcaller]
    exact .inl ⟨rfl, rfl⟩
  simp only [hcaller, run_draw]
  cases hresult : message.toEvent pack (Hub.draw { s with packs, used }).1.time with
  | error e => exact .inl ⟨rfl, rfl⟩
  | ok result =>
  have hown : result.pack = .ofPack pack := by
    rw [(toEvent_eq_ok.1 hresult).2]
    rfl
  simp only [run_get, run_perform, mapError_ok]
  cases hcomplete : Broker.complete s.actions pack actionId result
      (Hub.draw { s with packs, used }).1.time with
  | error e =>
      simp only [Hub.draw] at hcomplete ⊢
      rw [hcomplete]
      exact .inl ⟨rfl, rfl⟩
  | ok completed =>
      obtain ⟨outcome, actions⟩ := completed
      simp only [Hub.draw] at hcomplete ⊢
      rw [hcomplete]
      cases outcome with
      | none => exact .inl ⟨Broker.eq_of_complete_none hcomplete, rfl⟩
      | some a => exact .inr ⟨pack, result, _, a, hpack, hown, hcomplete, rfl⟩

theorem completeAction_reports (id actionId : String) (r : Request) (s : Hub) :
    let after := ((completeAction id actionId r).run s).2
    (after.actions = s.actions ∧ after.reports = s.reports) ∨
      ∃ pack result now a,
        Broker.complete s.actions pack actionId result now = .ok (some a, after.actions) ∧
          after.reports = s.reports ++ [.completed a] := by
  rcases completeAction_cases id actionId r s with hsame | ⟨pack, result, now, a, -, -, hcomplete⟩
  · exact .inl hsame
  · exact .inr ⟨pack, result, now, a, hcomplete⟩

/-- A result from a pack that does not serve the action is accepted and ignored. -/
theorem completeAction_ignored {id actionId : String} {r : Request} {s : Hub} {pack : Pack}
    {message : EventMessage} {a : Action} (hmessage : r.payload EventMessage.read = .ok message)
    (hname : Text.isBlankText message.name = false) (hpack : s.packs.require id = .ok pack)
    (ha : s.actions.get? actionId = some a)
    (hserves : pack.serves a.packName a.packLabels = false) :
    ∃ packs used, (completeAction id actionId r).run s =
      (.ok accepted, { s with packs, used }) := by
  simp only [completeAction, run_bind, run_accept, hmessage, mapError_ok]
  rcases run_caller id s with ⟨e, hmissing, -⟩ | ⟨caller, packs, used, hfound, hcaller⟩
  · rw [hpack] at hmissing
    cases hmissing
  obtain rfl := Except.ok.inj (hpack.symm.trans hfound)
  have hevent : ∀ now, message.toEvent pack now =
      .ok (.new message.name pack message.payload message.created now) :=
    fun now => toEvent_eq_ok.2 ⟨hname, rfl⟩
  have hignored : ∀ result now, Broker.settle s.actions pack a result now = .ok (none, s.actions) :=
    fun result now => Broker.settle_eq_ok_none.2 ⟨hserves, rfl⟩
  simp only [hcaller, run_draw, hevent, mapError_ok, run_get, run_perform, Hub.draw,
    Broker.complete_eq, ha, hignored]
  exact ⟨packs, _, rfl⟩

theorem refused_of_payload {r : Request} {read : Decoder α} {e : Failure}
    (h : r.payload read = .error e) : 400 ≤ e.status := by
  unfold Request.payload at h
  cases hdocument : r.document with
  | error refused =>
      rw [hdocument] at h
      obtain rfl := Except.error.inj h
      unfold Request.document at hdocument
      split at hdocument
      · obtain rfl := Except.error.inj hdocument
        exact Nat.le_refl _
      · dsimp only at hdocument
        split at hdocument
        · cases hdocument
        · obtain rfl := Except.error.inj hdocument
          exact Nat.le_refl _
  | ok document =>
      rw [hdocument] at h
      change (read document).mapError _ = _ at h
      cases hread : read document with
      | error reason =>
          rw [hread] at h
          obtain rfl := Except.error.inj h
          exact Nat.le_refl _
      | ok value =>
          rw [hread] at h
          cases h

theorem refused_of_toPack {registration : PackRegistration} {now : Timestamp} {e : Failure}
    (h : registration.toPack now = .error e) : 400 ≤ e.status := by
  unfold PackRegistration.toPack at h
  split at h
  · obtain rfl := Except.error.inj h
    exact Nat.le_refl 400
  · cases h

theorem refused_of_error (e : Error) : 400 ≤ (Failure.ofError e).status := by
  unfold Failure.ofError
  split
  · exact Nat.le_refl 400
  · exact Nat.le_add_right 400 100
  · split
    · exact Nat.le_add_right 400 4
    · exact Nat.le_add_right 400 100

/-- A flow is refused, or it is stored as a new version and answered with it. -/
theorem registerFlow_cases (r : Request) (s : Hub) :
    (∃ response, (registerFlow r).run s = (.error response, s) ∧ 400 ≤ response.status) ∨
      ∃ sent : FlowDefinition, r.payload FlowDefinition.read = .ok sent ∧ sent.validate = .ok () ∧
        ∀ stored, stored = s.flows.add { sent with uuid := none } (s.supply s.used).uuid →
          (registerFlow r).run s =
            (.ok (created stored.1.toJson (flowPath stored.1.name) "/v1/flows"),
              { s with flows := stored.2, used := s.used + 1 }) := by
  simp only [registerFlow, run_bind, run_accept]
  cases hread : r.payload FlowDefinition.read with
  | error e => exact .inl ⟨_, rfl, refused_of_payload hread⟩
  | ok sent =>
  simp only [mapError_ok, run_perform]
  cases hvalid : sent.validate with
  | error e => exact .inl ⟨_, rfl, refused_of_error e⟩
  | ok _ =>
  refine .inr ⟨sent, rfl, hvalid, ?_⟩
  rintro stored rfl
  rfl

/-- A registration is refused, or its pack is stored and counts as seen at the next reading. -/
theorem run_registerPack (r : Request) (s : Hub) :
    (registerPack r).run s =
      match r.payload PackRegistration.read with
      | .error e => (.error (refusal e), s)
      | .ok registration =>
        let now := (s.supply s.used).time
        match registration.toPack now with
        | .error e => (.error (refusal e), { s with used := s.used + 1 })
        | .ok pack =>
          let (pack, packs) := s.packs.register pack now
          (.ok (created (pack.view now) (packPath pack.id) "/v1/packs"),
            { s with packs, used := s.used + 1 }) := by
  simp only [registerPack, run_bind, run_accept, run_draw, Hub.draw]
  cases r.payload PackRegistration.read with
  | error e => rfl
  | ok registration =>
  simp only [mapError_ok]
  cases registration.toPack (s.supply s.used).time <;> rfl

/-- A body that is too large or no text is refused; any other is stored under the key. -/
theorem run_putData (key : String) (r : Request) (s : Hub) :
    (putData key r).run s =
      if r.isOversized then (.error (.plain 413 Request.oversizedText), s)
      else match r.text? with
        | none => (.error (refusal (.badRequest "datastore values must be UTF-8")), s)
        | some value =>
          (.ok (if s.data.contains key then noContent
            else (Response.empty 201).located (dataPath key)),
            { s with
              data := s.data.insert key
                ⟨key, r.readableType?.getD "text/plain", value, (s.supply s.used).time⟩
              used := s.used + 1 }) := by
  unfold putData
  cases hsize : r.isOversized with
  | true => cases r.text? <;> rfl
  | false =>
      cases r.text? with
      | none => rfl
      | some value =>
          have hput : (s.data.put ⟨key, r.readableType?.getD "text/plain", value,
              (s.supply s.used).time⟩).1 = !s.data.contains key := rfl
          simp only [Bool.false_eq_true, if_false, run_bind, run_draw, run_modifyGet, run_pure,
            Hub.draw, hput, Bool.not_eq_true']
          cases s.data.contains key <;> rfl

/-- A body is refused, or it is stored under the key, which is told if the key is new. -/
theorem putData_cases (key : String) (r : Request) (s : Hub) :
    (∃ response, (putData key r).run s = (.error response, s) ∧ 400 ≤ response.status) ∨
      ∃ value, r.text? = some value ∧ ∀ entry : DataEntry,
        entry = ⟨key, r.readableType?.getD "text/plain", value, (s.supply s.used).time⟩ →
          (putData key r).run s =
            (.ok (if s.data.contains key then noContent
              else (Response.empty 201).located (dataPath key)),
              { s with data := s.data.insert key entry, used := s.used + 1 }) := by
  have hrun := run_putData key r s
  split at hrun
  · exact .inl ⟨_, hrun, by decide⟩
  · cases htext : r.text? with
    | none => exact .inl ⟨_, by rw [hrun, htext], by decide⟩
    | some value => exact .inr ⟨value, rfl, by rintro entry rfl; rw [hrun, htext]⟩

theorem isHeaderValue_of_readableType? (r : Request) :
    Http.isHeaderValue (r.readableType?.getD "text/plain") = true := by
  unfold Request.readableType?
  cases htype : r.contentType.filter Http.isVisibleAscii with
  | none => decide
  | some type =>
      have hvisible := (Option.filter_eq_some_iff.1 htype).2
      simp only [Http.isVisibleAscii, Http.isHeaderValue, Option.getD_some, List.all_eq_true] at *
      intro c hc
      have hchar := hvisible c hc
      simp only [Http.isHeaderChar, Bool.or_eq_true, Bool.and_eq_true, decide_eq_true_eq] at hchar ⊢
      rcases hchar with htab | ⟨hspace, hlast⟩
      · exact .inl htab
      · exact .inr ⟨hspace, by omega⟩

/-- What is stored comes back under its type, unless a header cannot hold that. -/
theorem run_getData (key : String) (s : Hub) :
    (getData key).run s =
      match s.data.get? key with
      | none => (.error (refusal (.ofError (.notFound ("datastore key " ++ key)))), s)
      | some entry =>
        (.ok (if Http.isHeaderValue entry.contentType then
            { Response.empty 200 with contentType := some entry.contentType, body := entry.value }
          else .plain 500 "failed to parse header value"), s) := by
  simp only [getData, run_bind, run_get]
  cases s.data.get? key with
  | none => rfl
  | some entry => cases htype : Http.isHeaderValue entry.contentType <;> simp [htype]

theorem run_deleteData (key : String) (s : Hub) :
    (deleteData key).run s =
      (if s.data.contains key then .ok noContent
        else .error (refusal (.ofError (.notFound ("datastore key " ++ key)))),
        { s with data := s.data.erase key }) := by
  cases hfound : s.data.contains key <;>
    simp only [deleteData, run_bind, run_get, run_modify, DataStore.remove, hfound] <;> rfl

end Orchestrator.Api
