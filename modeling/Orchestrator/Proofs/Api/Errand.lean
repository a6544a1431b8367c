import Orchestrator.Proofs.Api.Serving
import Orchestrator.Proofs.Except
import Orchestrator.Station

/-!
What requests do to the registered packs and to the datastore. Whether one of these changes, and
how, can be told from the request and the moment at which it is read; nothing that a handling finds
out later on makes a difference.
-/

namespace Orchestrator

/-- The registered packs and the datastore. -/
structure Stock where
  packs : PackStore
  data : DataStore

namespace Hub

def stock (s : Hub) : Stock := ⟨s.packs, s.data⟩

/-- The next clock reading. -/
def reading (s : Hub) : Timestamp := (s.supply s.used).time

end Hub

/-- What a request wants to have done to the packs or to the datastore. -/
inductive Errand where
  | register (pack : Pack) (now : Timestamp)
  | dismiss (id : String)
  /-- A pack shows that it is there. -/
  | attend (id : String) (now : Timestamp)
  | put (entry : DataEntry)
  | discard (key : String)

namespace Stock

def run (s : Stock) : Errand → Stock
  | .register pack now => { s with packs := (s.packs.register pack now).2 }
  | .dismiss id => { s with packs := (s.packs.remove id).toOption.getD s.packs }
  | .attend id now =>
    match s.packs.get? id with
    | some pack => { s with packs := (s.packs.touch pack.id now).2 }
    | none => s
  | .put entry => { s with data := (s.data.put entry).2 }
  | .discard key => { s with data := (s.data.remove key).2 }

def after (s : Stock) (errand : Option Errand) : Stock := errand.elim s s.run

end Stock

namespace Api

open Http (Request Response)

variable {α β : Type}

/-- What a request to a resource wants to have done. A registration has to be complete, a message
has to be readable, and a query may not ask for two commands; whether a message makes sense, and
whether there is anything to take or to complete, does not matter. -/
def errandAt (now : Timestamp) (r : Request) : Resource → String → Option Errand
  | .packs, "POST" =>
    ((r.payload PackRegistration.read).bind (·.toPack now)).toOption.map (.register · now)
  | .pack id, "DELETE" => some (.dismiss id)
  | .packEvents id, "POST" | .actionResult id _, "POST" =>
    (r.payload EventMessage.read).toOption.map fun _ => .attend id now
  | .takeAction id, "POST" =>
    if (commandsAsked r.query).length ≤ 1 then some (.attend id now) else none
  | .dataEntry key, "PUT" =>
    if r.isOversized then none
    else r.text?.map fun value => .put ⟨key, r.readableType?.getD "text/plain", value, now⟩
  | .dataEntry key, "DELETE" => some (.discard key)
  | _, _ => none

/-- What a request wants to have done, if its path leads anywhere. -/
def errand? (now : Timestamp) (r : Request) : Option Errand :=
  (Resource.ofPath? r.path).bind fun sent =>
    sent.unescaped.toOption.bind fun resource => errandAt now r resource r.method

/-- The requests that want something to be done, resource by resource. -/
inductive Wants (now : Timestamp) (r : Request) : Resource → String → Errand → Prop where
  | register {registration : PackRegistration} {pack : Pack}
      (hread : r.payload PackRegistration.read = .ok registration)
      (hpack : registration.toPack now = .ok pack) :
      Wants now r .packs "POST" (.register pack now)
  | dismiss (id : String) : Wants now r (.pack id) "DELETE" (.dismiss id)
  | publish (id : String) {message : EventMessage}
      (hread : r.payload EventMessage.read = .ok message) :
      Wants now r (.packEvents id) "POST" (.attend id now)
  | complete (id actionId : String) {message : EventMessage}
      (hread : r.payload EventMessage.read = .ok message) :
      Wants now r (.actionResult id actionId) "POST" (.attend id now)
  | take (id : String) (hquery : (commandsAsked r.query).length ≤ 1) :
      Wants now r (.takeAction id) "POST" (.attend id now)
  | put (key : String) {value : String} (hsize : r.isOversized = false)
      (htext : r.text? = some value) :
      Wants now r (.dataEntry key) "PUT"
        (.put ⟨key, r.readableType?.getD "text/plain", value, now⟩)
  | discard (key : String) : Wants now r (.dataEntry key) "DELETE" (.discard key)

theorem wants_of_errandAt {now : Timestamp} {r : Request} {resource : Resource} {method : String}
    {errand : Errand} (h : errandAt now r resource method = some errand) :
    Wants now r resource method errand := by
  unfold errandAt at h
  split at h
  · obtain ⟨pack, hpack, rfl⟩ := Option.map_eq_some_iff.1 h
    obtain ⟨registration, hread, hpack⟩ := bind_eq_ok.1 (toOption_eq_some.1 hpack)
    exact .register hread hpack
  · obtain rfl := Option.some.inj h
    exact .dismiss _
  · obtain ⟨message, hread, rfl⟩ := Option.map_eq_some_iff.1 h
    exact .publish _ (toOption_eq_some.1 hread)
  · obtain ⟨message, hread, rfl⟩ := Option.map_eq_some_iff.1 h
    exact .complete _ _ (toOption_eq_some.1 hread)
  · obtain ⟨hquery, h⟩ := Option.ite_none_right_eq_some.1 h
    obtain rfl := Option.some.inj h
    exact .take _ hquery
  · obtain ⟨hsize, h⟩ := Option.ite_none_left_eq_some.1 h
    obtain ⟨value, htext, rfl⟩ := Option.map_eq_some_iff.1 h
    exact .put _ (by simpa using hsize) htext
  · obtain rfl := Option.some.inj h
    exact .discard _
  · cases h

theorem method_of_errandAt {now : Timestamp} {r : Request} {resource : Resource} {method : String}
    {errand : Errand} (h : errandAt now r resource method = some errand) :
    method ∈ resource.methods ∧ method ∉ ["GET", "HEAD", "OPTIONS"] := by
  cases wants_of_errandAt h <;> simp [Resource.methods]

theorem errandAt_eq_none {now : Timestamp} {r : Request} {resource : Resource} {method : String}
    (h : method ∉ resource.methods ∨ method ∈ ["GET", "HEAD", "OPTIONS"]) :
    errandAt now r resource method = none := by
  cases herrand : errandAt now r resource method with
  | none => rfl
  | some errand =>
      obtain ⟨hmem, hnot⟩ := method_of_errandAt herrand
      rcases h with h | h
      · exact absurd hmem h
      · exact absurd h hnot

/-! ## Handlings that leave packs and data alone -/

def Keeps (x : Handling α) : Prop := ∀ s, (x.run s).2.stock = s.stock

theorem Keeps.bind {x : Handling α} {f : α → Handling β} (hx : Keeps x) (hf : ∀ a, Keeps (f a)) :
    Keeps (x >>= f) :=
  run_bind_of_trans (fun s t => t.stock = s.stock) (fun hst htu => htu.trans hst) hx hf

theorem Looks.keeps {x : Handling α} (h : Looks x) : Keeps x := by
  intro s
  obtain ⟨used, hrun⟩ := h s
  rw [hrun]
  rfl

theorem keeps_modify {f : Hub → Hub} (h : ∀ s, (f s).stock = s.stock) :
    Keeps (modify f : Handling PUnit) :=
  h

theorem keeps_registerFlow (r : Request) : Keeps (registerFlow r) := by
  refine (looks_accept _).keeps.bind fun flow => (looks_perform _).keeps.bind fun _ => ?_
  refine looks_draw.keeps.bind fun stamp => Keeps.bind ?_ fun _ => (looks_pure _).keeps
  exact fun _ => rfl

theorem keeps_deleteFlow (name : String) : Keeps (deleteFlow name) := by
  refine looks_get.keeps.bind fun s => Keeps.bind (keeps_modify fun _ => rfl) fun _ => ?_
  split
  · exact (looks_pure _).keeps
  · exact (looks_perform _).keeps

/-! ## Handlings with an errand -/

section

variable (r : Request) (s : Hub)

theorem stock_registerPack :
    ((registerPack r).run s).2.stock = s.stock.after (errandAt s.reading r .packs "POST") := by
  rw [run_registerPack]
  simp only [errandAt]
  cases r.payload PackRegistration.read with
  | error e => rfl
  | ok registration =>
  simp only [Hub.reading, Except.bind]
  cases registration.toPack (s.supply s.used).time <;> rfl

theorem stock_deletePack (id : String) :
    ((deletePack id).run s).2.stock = s.stock.after (errandAt s.reading r (.pack id) "DELETE") := by
  simp only [deletePack, run_bind, run_get, run_perform]
  simp only [errandAt, Stock.after, Option.elim, Stock.run, Hub.stock]
  cases s.packs.remove id with
  | error e => rfl
  | ok packs => rfl

/-- Once a pack has shown that it is there, the rest of the handling does nothing to it. -/
theorem stock_caller_bind {id : String} {f : Pack → Handling β} (hf : ∀ pack, Keeps (f pack)) :
    ((caller id >>= f).run s).2.stock = s.stock.after (some (.attend id s.reading)) := by
  simp only [caller, run_bind, run_get, run_perform, Hub.seen, PackStore.require]
  simp only [Stock.after, Option.elim, Stock.run, Hub.stock]
  cases s.packs.get? id with
  | none => rfl
  | some pack => exact hf pack _

theorem stock_publishEvent (id : String) :
    ((publishEvent id r).run s).2.stock =
      s.stock.after (errandAt s.reading r (.packEvents id) "POST") := by
  simp only [publishEvent, run_bind (accept _), run_accept, errandAt]
  cases r.payload EventMessage.read with
  | error e => rfl
  | ok message =>
  refine stock_caller_bind s fun pack => looks_draw.keeps.bind fun stamp => ?_
  refine (looks_accept _).keeps.bind fun event => Keeps.bind (keeps_modify fun _ => rfl) fun _ => ?_
  exact (looks_pure _).keeps

theorem stock_completeAction (id actionId : String) :
    ((completeAction id actionId r).run s).2.stock =
      s.stock.after (errandAt s.reading r (.actionResult id actionId) "POST") := by
  simp only [completeAction, run_bind (accept _), run_accept, errandAt]
  cases r.payload EventMessage.read with
  | error e => rfl
  | ok message =>
  refine stock_caller_bind s fun pack => looks_draw.keeps.bind fun stamp => ?_
  refine (looks_accept _).keeps.bind fun result => looks_get.keeps.bind fun _ => ?_
  refine (looks_perform _).keeps.bind fun completed => ?_
  refine Keeps.bind (keeps_modify fun _ => rfl) fun _ => ?_
  split
  · exact Keeps.bind (keeps_modify fun _ => rfl) fun _ => (looks_pure _).keeps
  · exact (looks_pure _).keeps

theorem run_takeQuery_cases (id : String) :
    (∃ e, (takeQuery r.query).run s = (.error e, s) ∧
      errandAt s.reading r (.takeAction id) "POST" = none) ∨
    ∃ query, (takeQuery r.query).run s = (.ok query, s) ∧
      errandAt s.reading r (.takeAction id) "POST" = some (.attend id s.reading) := by
  rcases Nat.lt_or_ge 1 (commandsAsked r.query).length with hmany | hfew
  · refine .inl ⟨_, run_takeQuery_of_many hmany s, ?_⟩
    rw [errandAt, if_neg (by omega)]
  · obtain ⟨query, hrun⟩ := run_takeQuery_of_few hfew s
    refine .inr ⟨query, hrun, ?_⟩
    rw [errandAt, if_pos hfew]

theorem stock_takeAction (id : String) :
    ((takeAction id r).run s).2.stock =
      s.stock.after (errandAt s.reading r (.takeAction id) "POST") := by
  rw [takeAction, run_bind]
  rcases run_takeQuery_cases r s id with ⟨e, hquery, herrand⟩ | ⟨query, hquery, herrand⟩
  · rw [hquery, herrand]
    rfl
  rw [hquery, herrand]
  refine stock_caller_bind s fun pack => looks_draw.keeps.bind fun stamp => ?_
  refine looks_get.keeps.bind fun _ => (looks_perform _).keeps.bind fun taken => ?_
  refine Keeps.bind (keeps_modify fun _ => rfl) fun _ => ?_
  split <;> exact (looks_pure _).keeps

theorem stock_putData (key : String) :
    ((putData key r).run s).2.stock =
      s.stock.after (errandAt s.reading r (.dataEntry key) "PUT") := by
  rw [run_putData]
  simp only [errandAt]
  cases r.isOversized with
  | true => rfl
  | false => cases r.text? <;> rfl

theorem stock_deleteData (key : String) :
    ((deleteData key).run s).2.stock =
      s.stock.after (errandAt s.reading r (.dataEntry key) "DELETE") := by
  rw [run_deleteData]
  rfl

theorem stock_handle (resource : Resource) (method : String) :
    ((handle resource method r).run s).2.stock =
      s.stock.after (errandAt s.reading r resource method) := by
  unfold handle
  split
  · exact (looks_pure _).keeps s
  · exact (looks_pure _).keeps s
  · exact looks_listPacks.keeps s
  · exact stock_registerPack r s
  · exact (looks_getPack _).keeps s
  · exact stock_deletePack r s _
  · exact stock_publishEvent r s _
  · exact stock_takeAction r s _
  · exact stock_completeAction r s _ _
  · exact looks_listFlows.keeps s
  · exact keeps_registerFlow r s
  · exact (looks_getFlow _).keeps s
  · exact keeps_deleteFlow _ s
  · exact looks_listDataKeys.keeps s
  · exact (looks_getData _).keeps s
  · exact stock_putData r s _
  · exact stock_deleteData r s _
  · have hnone : errandAt s.reading r resource method = none := by
      unfold errandAt
      split <;> simp_all
    rw [hnone]
    exact (looks_throw _).keeps s

end

/-! ## Requests -/

section

variable {r : Request}

theorem errand?_of_path {sent resource : Resource} (hsent : Resource.ofPath? r.path = some sent)
    (hresource : sent.unescaped = .ok resource) (now : Timestamp) :
    errand? now r = errandAt now r resource r.method := by
  simp [errand?, hsent, hresource, Except.toOption]

theorem errand?_of_unreadable {sent : Resource} {calledAs : String}
    (hsent : Resource.ofPath? r.path = some sent) (hresource : sent.unescaped = .error calledAs)
    (now : Timestamp) : errand? now r = none := by
  simp [errand?, hsent, hresource, Except.toOption]

theorem wants_of_errand? {now : Timestamp} {errand : Errand} (h : errand? now r = some errand) :
    ∃ sent resource, Resource.ofPath? r.path = some sent ∧ sent.unescaped = .ok resource ∧
      Wants now r resource r.method errand := by
  obtain ⟨sent, hsent, h⟩ := Option.bind_eq_some_iff.1 h
  obtain ⟨resource, hresource, h⟩ := Option.bind_eq_some_iff.1 h
  exact ⟨sent, resource, hsent, toOption_eq_some.1 hresource, wants_of_errandAt h⟩

theorem errand?_of_method (h : r.method ∈ ["GET", "HEAD", "OPTIONS"]) (now : Timestamp) :
    errand? now r = none := by
  simp only [errand?, errandAt_eq_none (.inr h), Option.bind_fun_none]

theorem stock_route (r : Request) (s : Hub) :
    ((route r).run s).2.stock = s.stock.after (errand? s.reading r) := by
  cases hsent : Resource.ofPath? r.path with
  | none =>
      rw [run_route_of_no_path hsent, errand?, hsent]
      rfl
  | some sent =>
  cases hmethod : sent.methods.contains r.method with
  | false =>
      have hnone : errand? s.reading r = none := by
        cases hresource : sent.unescaped with
        | error calledAs => exact errand?_of_unreadable hsent hresource _
        | ok resource =>
            rw [errand?_of_path hsent hresource]
            rw [← methods_of_unescaped hresource] at hmethod
            exact errandAt_eq_none (.inl (by simpa using hmethod))
      rw [run_route_of_no_method hsent hmethod, hnone]
      rfl
  | true =>
  cases hresource : sent.unescaped with
  | error calledAs =>
      rw [run_route_of_unreadable hsent hresource hmethod, errand?_of_unreadable hsent hresource]
      rfl
  | ok resource =>
      rw [run_route_of_readable hsent hresource hmethod, stock_handle,
        errand?_of_path hsent hresource]
      by_cases hhead : r.method = "HEAD"
      · rw [errandAt_eq_none (.inr (by simp [hhead])), errandAt_eq_none (.inr (by simp [hhead]))]
      · rw [if_neg (by simpa using hhead)]

end

/-- After a request the packs and the data are what the errand of the request makes of them. -/
theorem stock_serve (shared : Bool) (s : Hub) (r : Request) :
    (serve shared s r).2.stock = s.stock.after (errand? s.reading r) := by
  have hanswer : (answer s r).2.stock = s.stock.after (errand? s.reading r) := stock_route r s
  unfold serve
  split
  · exact hanswer
  · dsimp only
    split
    · next hoptions =>
      have hmethod : r.method = "OPTIONS" := by simpa using hoptions
      rw [errand?_of_method (by simp [hmethod])]
      rfl
    · exact hanswer

/-! ## Runs -/

/-- A request, and the clock reading with which it was read. -/
structure Visit where
  moment : Timestamp
  request : Request

/-- What happens to a hub between requests: packs are swept, and whatever else is done leaves packs
and data alone. -/
inductive Chore (s : Hub) : Hub → Prop where
  | sweep (now : Timestamp) (grace : Int) : Chore s (s.sweep now grace)
  | other {s' : Hub} (h : s'.stock = s.stock) : Chore s s'

/-- The hubs that a hub without any knowledge comes to, with the requests that it has been sent, the
latest of them last. -/
inductive Served (shared : Bool) : List Visit → Hub → Prop where
  | start (mode : DependencyMode) (supply : Nat → Stamp) : Served shared [] (.empty mode supply)
  | request {visits : List Visit} {s : Hub} (h : Served shared visits s) (r : Request) :
      Served shared (visits ++ [⟨s.reading, r⟩]) (serve shared s r).2
  | chore {visits : List Visit} {s s' : Hub} (h : Served shared visits s) (hchore : Chore s s') :
      Served shared visits s'

end Api

/-! ## A service at work -/

namespace Hub

theorem stock_assignAll (s : Hub) : s.assignAll.stock = s.stock := by
  have hassign (s : Hub) (report : Report) : (s.assign report).stock = s.stock := by
    cases report <;> rfl
  have hfold (reports : List Report) (s : Hub) : (reports.foldl assign s).stock = s.stock := by
    induction reports generalizing s with
    | nil => rfl
    | cons report rest ih => rw [List.foldl_cons, ih, hassign]
  exact hfold s.reports _

theorem stock_processEach (s : Hub) (assignments : List Assignment) :
    (s.processEach assignments).2.stock = s.stock := by
  induction assignments generalizing s with
  | nil => rfl
  | cons a rest ih => exact ih (s.process a).2

theorem stock_settle (s : Hub) : s.settle.stock = s.stock := by
  rw [settle, stock_processEach]
  exact s.stock_assignAll

theorem stock_expire (s : Hub) (now : Timestamp) (age : Int) :
    (s.expire now age).stock = s.stock := by
  unfold expire
  split <;> rfl

end Hub

namespace Station

open Api

variable {visits : List Visit} {s : Station}

theorem served_start (settings : Settings) (seed : List UInt8) (now : Timestamp) :
    Served true [] (start settings seed now).hub :=
  .start _ _

/-- Packs and data stay as they are when the clock is set, and in the work after a request. -/
theorem served_answer (h : Served true visits s.hub) (now : Timestamp) (r : Http.Request) :
    Served true (visits ++ [⟨(s.supply.renew now s.hub.used).reading s.hub.used, r⟩])
      (s.answer now r).2.hub := by
  have hset : Served true visits
      { s.hub with supply := (s.supply.renew now s.hub.used).stamp } :=
    h.chore (.other rfl)
  exact (hset.request r).chore (.other (Hub.stock_settle _))

theorem served_expire (h : Served true visits s.hub) (settings : Settings) (now : Timestamp) :
    Served true visits (s.expire settings now).hub :=
  h.chore (.other (s.hub.stock_expire now settings.actionAge))

theorem served_sweep (h : Served true visits s.hub) (settings : Settings) (now : Timestamp) :
    Served true visits (s.sweep settings now).hub :=
  h.chore (.sweep now settings.packAge)

end Station

end Orchestrator
