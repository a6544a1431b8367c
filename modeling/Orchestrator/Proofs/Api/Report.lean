import Orchestrator.Proofs.Api.Serving
import Orchestrator.Proofs.Json.Text

/-!
How errors are reported. An error of the service has a body that names its kind and describes it.
What a library refuses before the service has a say in it is told in that library's words, or without
any.
-/

namespace Orchestrator.Api

open Http (Request Response)

variable {α β : Type} {r : Request} {s : Hub}

/-- A body describes an error and names its kind. -/
def IsReport (body : String) : Prop :=
  ∃ message kind : String, Json.parse? body =
    some (.obj [("error", .obj [("message", .str message), ("type", .str kind)])])

/-- A request for a resource whose answer, should it be an error, does not report it. -/
inductive Unreported (s : Hub) (r : Request) (sent : Resource) : Prop where
  /-- The resource does not have the method. -/
  | method (h : sent.methods.contains r.method = false)
  /-- A name in the path is not UTF-8. -/
  | name (calledAs : String) (h : sent.unescaped = .error calledAs)
  /-- The query asks for actions of more than one name. -/
  | query (id : String) (h : sent.unescaped = .ok (.takeAction id))
      (hmany : 1 < (commandsAsked r.query).length)
  /-- What is to be stored is too large. -/
  | size (key : String) (h : sent.unescaped = .ok (.dataEntry key)) (hput : r.method = "PUT")
      (hsize : r.isOversized = true)
  /-- What is stored has a type that a header cannot hold. -/
  | type (key : String) (entry : DataEntry) (h : sent.unescaped = .ok (.dataEntry key))
      (hget : r.method = "GET") (hentry : s.data.get? key = some entry)
      (htype : Http.isHeaderValue entry.contentType = false)
  /-- Nobody has asked for the body. -/
  | head (h : r.method = "HEAD")

/-! ## Bodies -/

theorem sorted_detail (message kind : Json) :
    Entries.Sorted [("message", message), ("type", kind)] :=
  List.pairwise_pair.2 (by decide : "message" < "type")

theorem errorResponse_toJson (e : ErrorResponse) :
    e.toJson = .obj [("error", .obj [("message", .str e.error.message),
      ("type", .str e.error.kind)])] := by
  rw [ErrorResponse.toJson, Json.object, Entries.ofList_of_sorted (List.pairwise_singleton _ _),
    ErrorDetail.toJson, Json.object, Entries.ofList_of_sorted (sorted_detail _ _)]

theorem isReport_refusal (f : Failure) : IsReport (refusal f).body := by
  refine ⟨f.body.error.message, f.body.error.kind, ?_⟩
  change Json.parse? f.body.toJson.text = _
  rw [errorResponse_toJson]
  apply Json.parse?_text
  refine Json.readsBack_obj (List.pairwise_singleton _ _) (List.forall_mem_singleton.2 ?_)
  exact Json.readsBack_obj (sorted_detail _ _) (by simp [Json.readsBack_str])

theorem not_isReport_of_letter {body : String} {c : Char} (hbody : body.toList.head? = some c)
    (hc : c.isAlpha = true) : ¬ IsReport body := by
  rintro ⟨message, kind, hparse⟩
  obtain ⟨more, hmore⟩ := Json.brace_of_parse? hparse
  obtain ⟨cs, hcs⟩ := List.head?_eq_some_iff.1 hbody
  have hspace : ¬ Json.isSpace c = true := by
    simp only [Json.isSpace, Bool.or_eq_true, decide_eq_true_eq]
    rintro (((rfl | rfl) | rfl) | rfl) <;> exact absurd hc (by decide)
  rw [hcs, Json.skipSpace, List.dropWhile_cons_of_neg hspace] at hmore
  obtain rfl := (List.cons.inj hmore).1
  exact absurd hc (by decide)

theorem not_isReport_empty : ¬ IsReport "" := by
  rintro ⟨message, kind, hparse⟩
  obtain ⟨more, hmore⟩ := Json.brace_of_parse? hparse
  cases hmore

/-! ## Handlings that report their errors -/

/-- The errors of a handling are the service's own. -/
def Reports (x : Handling α) : Prop := ∀ s e, (x.run s).1 = .error e → ∃ f, e = refusal f

/-- A handling that is answered with the status of an error ends with one of the service's own. -/
def Frank (x : Handling Response) : Prop :=
  ∀ s, 400 ≤ (outgoing false (x.run s).1).status → ∃ f, (x.run s).1 = .error (refusal f)

theorem Reports.bind_frank {x : Handling α} {f : α → Handling Response} (hx : Reports x)
    (hf : ∀ a, Frank (f a)) : Frank (x >>= f) := by
  intro s
  have hfirst := hx s
  rw [run_bind]
  generalize x.run s = ended at hfirst
  obtain ⟨outcome, t⟩ := ended
  cases outcome with
  | error e =>
      obtain ⟨f, rfl⟩ := hfirst e rfl
      exact fun _ => ⟨f, rfl⟩
  | ok a => exact hf a t

theorem Reports.bind {x : Handling α} {f : α → Handling β} (hx : Reports x)
    (hf : ∀ a, Reports (f a)) : Reports (x >>= f) := by
  intro s e he
  have hfirst := hx s
  rw [run_bind] at he
  generalize x.run s = ended at hfirst he
  obtain ⟨outcome, t⟩ := ended
  cases outcome with
  | error refused =>
      obtain ⟨f, rfl⟩ := hfirst refused rfl
      exact ⟨f, (Except.error.inj he).symm⟩
  | ok a => exact hf a t e he

theorem reports_accept (x : Except Failure α) : Reports (accept x) := by
  intro s e he
  cases x with
  | error f => exact ⟨f, (Except.error.inj he).symm⟩
  | ok a => cases he

theorem reports_perform (x : Except Error α) : Reports (perform x) := reports_accept _

theorem reports_get : Reports get := fun _ _ he => nomatch he

theorem reports_draw : Reports draw := fun _ _ he => nomatch he

theorem reports_modify (f : Hub → Hub) : Reports (modify f : Handling PUnit) :=
  fun _ _ he => nomatch he

theorem reports_modifyGet (f : Hub → α × Hub) : Reports (modifyGet f : Handling α) :=
  fun _ _ he => nomatch he

theorem reports_caller (id : String) : Reports (caller id) := by
  refine reports_get.bind fun s => (reports_perform _).bind fun found => ?_
  exact fun _ _ he => nomatch he

theorem reports_takeQuery {query : Option String} (hone : (commandsAsked query).length ≤ 1) :
    Reports (takeQuery query) := by
  intro s e he
  obtain ⟨wanted, hrun⟩ := run_takeQuery_of_few hone s
  rw [hrun] at he
  cases he

/-! ## Handlers -/

/-- What ends with a success has nothing to report. -/
theorem frank_of_success {x : Handling Response} {n : Nat} (hn : n < 400)
    (h : ∀ s, ∃ response after, x.run s = (.ok response, after) ∧ response.status = n) :
    Frank x := by
  intro s hrefused
  obtain ⟨response, after, hrun, hstatus⟩ := h s
  rw [hrun, outgoing_ok_status, hstatus] at hrefused
  omega

theorem frank_perform (e : Error) : Frank (perform (.error e)) := fun _ _ => ⟨.ofError e, rfl⟩

theorem frank_listPacks : Frank listPacks := by
  refine reports_draw.bind_frank fun stamp => reports_get.bind_frank fun _ => ?_
  exact frank_of_success (n := 200) (by omega) fun _ => ⟨_, _, rfl, rfl⟩

theorem frank_registerPack (r : Request) : Frank (registerPack r) := by
  refine (reports_accept _).bind_frank fun registration => reports_draw.bind_frank fun stamp => ?_
  refine (reports_accept _).bind_frank fun pack => (reports_modifyGet _).bind_frank fun pack => ?_
  exact frank_of_success (n := 201) (by omega) fun _ => ⟨_, _, rfl, rfl⟩

theorem frank_getPack (id : String) : Frank (getPack id) := by
  refine reports_draw.bind_frank fun stamp => reports_get.bind_frank fun _ => ?_
  refine (reports_perform _).bind_frank fun pack => ?_
  exact frank_of_success (n := 200) (by omega) fun _ => ⟨_, _, rfl, rfl⟩

theorem frank_deletePack (id : String) : Frank (deletePack id) := by
  refine reports_get.bind_frank fun _ => (reports_perform _).bind_frank fun packs => ?_
  exact frank_of_success (n := 204) (by omega) fun _ => ⟨_, _, rfl, rfl⟩

theorem frank_publishEvent (id : String) (r : Request) : Frank (publishEvent id r) := by
  refine (reports_accept _).bind_frank fun message => (reports_caller id).bind_frank fun pack => ?_
  refine reports_draw.bind_frank fun stamp => (reports_accept _).bind_frank fun event => ?_
  exact frank_of_success (n := 202) (by omega) fun _ => ⟨_, _, rfl, rfl⟩

theorem frank_takeAction (id : String) (hone : (commandsAsked r.query).length ≤ 1) :
    Frank (takeAction id r) := by
  refine (reports_takeQuery hone).bind_frank fun query => ?_
  refine (reports_caller id).bind_frank fun pack => reports_draw.bind_frank fun stamp => ?_
  refine reports_get.bind_frank fun _ => (reports_perform _).bind_frank fun taken => ?_
  obtain ⟨_ | action, actions⟩ := taken
  · exact frank_of_success (n := 204) (by omega) fun _ => ⟨_, _, rfl, rfl⟩
  · exact frank_of_success (n := 200) (by omega) fun _ => ⟨_, _, rfl, rfl⟩

theorem frank_completeAction (id actionId : String) (r : Request) :
    Frank (completeAction id actionId r) := by
  refine (reports_accept _).bind_frank fun message => (reports_caller id).bind_frank fun pack => ?_
  refine reports_draw.bind_frank fun stamp => (reports_accept _).bind_frank fun result => ?_
  refine reports_get.bind_frank fun _ => (reports_perform _).bind_frank fun completed => ?_
  obtain ⟨_ | action, actions⟩ := completed
  all_goals exact frank_of_success (n := 202) (by omega) fun _ => ⟨_, _, rfl, rfl⟩

theorem frank_registerFlow (r : Request) : Frank (registerFlow r) := by
  refine (reports_accept _).bind_frank fun flow => (reports_perform _).bind_frank fun _ => ?_
  refine reports_draw.bind_frank fun stamp => (reports_modifyGet _).bind_frank fun flow => ?_
  exact frank_of_success (n := 201) (by omega) fun _ => ⟨_, _, rfl, rfl⟩

theorem frank_listFlows : Frank listFlows := by
  refine reports_get.bind_frank fun _ => ?_
  exact frank_of_success (n := 200) (by omega) fun _ => ⟨_, _, rfl, rfl⟩

theorem frank_getFlow (name : String) : Frank (getFlow name) := by
  refine reports_get.bind_frank fun s => ?_
  split
  · exact frank_of_success (n := 200) (by omega) fun _ => ⟨_, _, rfl, rfl⟩
  · exact frank_perform _

theorem frank_deleteFlow (name : String) : Frank (deleteFlow name) := by
  refine reports_get.bind_frank fun s => (reports_modify _).bind_frank fun _ => ?_
  split
  · exact frank_of_success (n := 204) (by omega) fun _ => ⟨_, _, rfl, rfl⟩
  · exact frank_perform _

theorem frank_listDataKeys : Frank listDataKeys := by
  refine reports_get.bind_frank fun _ => ?_
  exact frank_of_success (n := 200) (by omega) fun _ => ⟨_, _, rfl, rfl⟩

theorem frank_deleteData (key : String) : Frank (deleteData key) := by
  refine reports_get.bind_frank fun s => (reports_modify _).bind_frank fun _ => ?_
  split
  · exact frank_of_success (n := 204) (by omega) fun _ => ⟨_, _, rfl, rfl⟩
  · exact frank_perform _

theorem refusal_of_getData {key : String}
    (htype : ∀ entry, s.data.get? key = some entry → Http.isHeaderValue entry.contentType = true)
    (hrefused : 400 ≤ (outgoing false ((getData key).run s).1).status) :
    ∃ f, ((getData key).run s).1 = .error (refusal f) := by
  rw [run_getData] at hrefused ⊢
  cases hentry : s.data.get? key with
  | none => exact ⟨_, rfl⟩
  | some entry =>
      simp only [hentry, htype entry hentry, if_true] at hrefused
      exact absurd hrefused (by omega : ¬ 400 ≤ 200)

theorem refusal_of_putData {key : String} (hsize : r.isOversized = false)
    (hrefused : 400 ≤ (outgoing false ((putData key r).run s).1).status) :
    ∃ f, ((putData key r).run s).1 = .error (refusal f) := by
  rw [run_putData, hsize, if_neg Bool.false_ne_true] at hrefused ⊢
  cases htext : r.text? with
  | none => exact ⟨_, rfl⟩
  | some value =>
      simp only [htext] at hrefused
      split at hrefused
      · exact absurd hrefused (by omega : ¬ 400 ≤ 204)
      · exact absurd hrefused (by omega : ¬ 400 ≤ 201)

/-- A resource that handles one of its methods reports whatever error comes of it, unless that is left
to a library. -/
theorem refusal_of_handle {sent resource : Resource} (hsent : sent.unescaped = .ok resource)
    (hmethod : resource.methods.contains r.method = true) (hreported : ¬ Unreported s r sent)
    (hrefused : 400 ≤ (outgoing false ((handle resource r.method r).run s).1).status) :
    ∃ f, ((handle resource r.method r).run s).1 = .error (refusal f) := by
  have hhead : r.method ≠ "HEAD" := fun h => hreported (.head h)
  cases resource with
  | health | info =>
      obtain hget : r.method = "GET" := by simpa [Resource.methods, hhead] using hmethod
      rw [hget] at hrefused
      exact absurd hrefused (by omega : ¬ 400 ≤ 200)
  | dataKeys =>
      obtain hget : r.method = "GET" := by simpa [Resource.methods, hhead] using hmethod
      rw [hget] at hrefused ⊢
      exact frank_listDataKeys s hrefused
  | packs =>
      obtain hget | hpost : r.method = "GET" ∨ r.method = "POST" := by
        simpa [Resource.methods, hhead] using hmethod
      · rw [hget] at hrefused ⊢
        exact frank_listPacks s hrefused
      · rw [hpost] at hrefused ⊢
        exact frank_registerPack r s hrefused
  | flows =>
      obtain hget | hpost : r.method = "GET" ∨ r.method = "POST" := by
        simpa [Resource.methods, hhead] using hmethod
      · rw [hget] at hrefused ⊢
        exact frank_listFlows s hrefused
      · rw [hpost] at hrefused ⊢
        exact frank_registerFlow r s hrefused
  | pack id =>
      obtain hget | hdelete : r.method = "GET" ∨ r.method = "DELETE" := by
        simpa [Resource.methods, hhead] using hmethod
      · rw [hget] at hrefused ⊢
        exact frank_getPack id s hrefused
      · rw [hdelete] at hrefused ⊢
        exact frank_deletePack id s hrefused
  | flow name =>
      obtain hget | hdelete : r.method = "GET" ∨ r.method = "DELETE" := by
        simpa [Resource.methods, hhead] using hmethod
      · rw [hget] at hrefused ⊢
        exact frank_getFlow name s hrefused
      · rw [hdelete] at hrefused ⊢
        exact frank_deleteFlow name s hrefused
  | packEvents id =>
      obtain hpost : r.method = "POST" := by simpa [Resource.methods] using hmethod
      rw [hpost] at hrefused ⊢
      exact frank_publishEvent id r s hrefused
  | takeAction id =>
      obtain hpost : r.method = "POST" := by simpa [Resource.methods] using hmethod
      have hone : (commandsAsked r.query).length ≤ 1 := by
        by_contra hmany
        exact hreported (.query id hsent (by omega))
      rw [hpost] at hrefused ⊢
      exact frank_takeAction id hone s hrefused
  | actionResult id actionId =>
      obtain hpost : r.method = "POST" := by simpa [Resource.methods] using hmethod
      rw [hpost] at hrefused ⊢
      exact frank_completeAction id actionId r s hrefused
  | dataEntry key =>
      obtain hget | hput | hdelete :
          r.method = "GET" ∨ r.method = "PUT" ∨ r.method = "DELETE" := by
        simpa [Resource.methods, hhead] using hmethod
      · rw [hget] at hrefused ⊢
        refine refusal_of_getData (fun entry hentry => ?_) hrefused
        by_contra htype
        exact hreported (.type key entry hsent hget hentry (Bool.eq_false_iff.2 htype))
      · have hsize : r.isOversized = false := by
          by_contra hsize
          exact hreported (.size key hsent hput (by simpa using hsize))
        rw [hput] at hrefused ⊢
        exact refusal_of_putData hsize hrefused
      · rw [hdelete] at hrefused ⊢
        exact frank_deleteData key s hrefused

/-! ## Answers -/

theorem serve_refused {shared : Bool} (h : 400 ≤ (serve shared s r).1.status) :
    let response := outgoing false ((route r).run s).1
    400 ≤ response.status ∧
      (serve shared s r).1.body = (if isForHead r then "" else response.body) ∧
      (serve shared s r).1.contentType = response.contentType := by
  have hanswer : (answer s r).1 =
      if isForHead r then { outgoing false ((route r).run s).1 with body := "" }
      else outgoing false ((route r).run s).1 := rfl
  have hserve : 400 ≤ (answer s r).1.status ∧
      (serve shared s r).1.body = (answer s r).1.body ∧
      (serve shared s r).1.contentType = (answer s r).1.contentType := by
    unfold serve at h ⊢
    cases shared with
    | false => exact ⟨h, rfl, rfl⟩
    | true =>
        cases hoptions : r.method == "OPTIONS" with
        | true =>
            simp only [hoptions, if_true] at h
            exact absurd h (by omega : ¬ 400 ≤ 200)
        | false =>
            simp only [hoptions] at h
            exact ⟨h, rfl, rfl⟩
  rw [hanswer] at hserve
  dsimp only
  split at hserve
  · next hhead =>
    rw [if_pos hhead]
    exact hserve
  · next hhead =>
    rw [if_neg hhead]
    exact hserve

/-- An error that no library reports is reported by the service. -/
theorem refusal_of_route
    (hreported : ∀ sent, Resource.ofPath? r.path = some sent → ¬ Unreported s r sent)
    (hrefused : 400 ≤ (outgoing false ((route r).run s).1).status) :
    ∃ f, ((route r).run s).1 = .error (refusal f) := by
  cases hsent : Resource.ofPath? r.path with
  | none => exact ⟨_, by rw [run_route_of_no_path hsent]⟩
  | some sent =>
      have hown := hreported sent hsent
      have hmethod : sent.methods.contains r.method = true := by
        by_contra hmethod
        exact hown (.method (Bool.eq_false_iff.2 hmethod))
      cases hresource : sent.unescaped with
      | error calledAs => exact absurd (.name calledAs hresource) hown
      | ok resource =>
          rw [← methods_of_unescaped hresource] at hmethod
          rw [run_route_of_path hsent hresource hmethod fun h => hown (.head h)] at hrefused ⊢
          exact refusal_of_handle hresource hmethod hown hrefused

theorem not_isReport_of_unreported {sent : Resource} (hsent : Resource.ofPath? r.path = some sent)
    (hunreported : Unreported s r sent) (hhead : r.method ≠ "HEAD") :
    ¬ IsReport (outgoing false ((route r).run s).1).body := by
  -- The method is looked at before anything else, so it decides whatever else is wrong.
  cases hmethod : sent.methods.contains r.method with
  | false =>
      rw [run_route_of_no_method hsent hmethod]
      exact not_isReport_empty
  | true =>
  have hrun : ∀ resource, sent.unescaped = .ok resource →
      resource.methods.contains r.method = true ∧
        (route r).run s = (handle resource r.method r).run s := by
    intro resource hresource
    rw [← methods_of_unescaped hresource] at hmethod
    exact ⟨hmethod, run_route_of_path hsent hresource hmethod hhead s⟩
  cases hunreported with
  | method h =>
      rw [h] at hmethod
      cases hmethod
  | name calledAs h =>
      rw [run_route_of_unreadable hsent h hmethod]
      exact not_isReport_of_letter (c := 'I') (by simp [outgoing, Response.plain]) (by decide)
  | query id h hmany =>
      obtain ⟨hpost, hhandled⟩ := hrun _ h
      replace hpost : r.method = "POST" := by simpa [Resource.methods] using hpost
      rw [hhandled, hpost]
      change ¬ IsReport (outgoing false ((takeAction id r).run s).1).body
      rw [takeAction, run_bind, run_takeQuery_of_many hmany]
      exact not_isReport_of_letter (c := 'F') (by simp [outgoing, Response.plain]) (by decide)
  | size key h hput hsize =>
      rw [(hrun _ h).2, hput]
      change ¬ IsReport (outgoing false ((putData key r).run s).1).body
      rw [run_putData, if_pos hsize]
      exact not_isReport_of_letter (c := 'F')
        (by simp [outgoing, Response.plain, Request.oversizedText]) (by decide)
  | type key entry h hget hentry htype =>
      rw [(hrun _ h).2, hget]
      change ¬ IsReport (outgoing false ((getData key).run s).1).body
      rw [run_getData]
      simp only [hentry, htype]
      exact not_isReport_of_letter (c := 'f') (by simp [outgoing, Response.plain]) (by decide)
  | head h => exact absurd h hhead

/-- An answer with the status of an error reports the error, unless a library has refused the request
in the place of the service or nobody has asked for the body. -/
theorem refused_reported_iff (shared : Bool) (s : Hub) (r : Request)
    (h : 400 ≤ (serve shared s r).1.status) :
    (IsReport (serve shared s r).1.body ↔
      ∀ sent, Resource.ofPath? r.path = some sent → ¬ Unreported s r sent) ∧
      (IsReport (serve shared s r).1.body →
        (serve shared s r).1.contentType = some "application/json") := by
  obtain ⟨hrefused, hbody, htype⟩ := serve_refused h
  have hiff : IsReport (serve shared s r).1.body ↔
      ∀ sent, Resource.ofPath? r.path = some sent → ¬ Unreported s r sent := by
    constructor
    · intro hreport sent hsent hunreported
      rw [hbody] at hreport
      by_cases hhead : r.method = "HEAD"
      · have hforHead : isForHead r = true := by simp [isForHead, hhead, hsent]
        rw [if_pos hforHead] at hreport
        exact not_isReport_empty hreport
      · have hforBody : isForHead r = false := by simp [isForHead, hhead]
        rw [hforBody, if_neg Bool.false_ne_true] at hreport
        exact not_isReport_of_unreported hsent hunreported hhead hreport
    · intro hreported
      obtain ⟨f, hf⟩ := refusal_of_route hreported hrefused
      have hforBody : ¬ isForHead r = true := by
        intro hforHead
        simp only [isForHead, Bool.and_eq_true, beq_iff_eq, Option.isSome_iff_exists] at hforHead
        obtain ⟨hhead, sent, hsent⟩ := hforHead
        exact hreported sent hsent (.head hhead)
      rw [hbody, if_neg hforBody, hf]
      exact isReport_refusal f
  refine ⟨hiff, fun hreport => ?_⟩
  obtain ⟨f, hf⟩ := refusal_of_route (hiff.1 hreport) hrefused
  rw [htype, hf]
  rfl

/-- A hub that knows nothing. -/
def vacant : Hub := Hub.empty .any fun _ => default

/-- Nothing can be done with a method that a resource does not have, nor is anything said of it. -/
theorem delete_health_unreported :
    let answer := (serve false vacant ⟨"DELETE", "/health", none, none, .empty⟩).1
    answer.status = 405 ∧ ¬ IsReport answer.body := by
  intro answer
  have hstatus : answer.status = 405 := by decide +kernel
  have hbody : answer.body = "" := by decide +kernel
  rw [hbody]
  exact ⟨hstatus, not_isReport_empty⟩

/-- There are no menus, and the service says so; who asks for soup and for roast is told off by a
library. -/
theorem menus_reported_and_courses_not :
    let menus := (serve true vacant ⟨"GET", "/v1/menus", none, none, .empty⟩).1
    let courses := (serve true vacant ⟨"POST", "/v1/packs/kitchen/actions/take",
      some "actionName=soup&actionName=roast", none, .empty⟩).1
    (menus.status = 404 ∧ IsReport menus.body ∧ menus.contentType = some "application/json") ∧
      courses.status = 400 ∧ ¬ IsReport courses.body := by
  intro menus courses
  have hmenus : menus.status = 404 := by decide +kernel
  have hcourses : courses.status = 400 := by decide +kernel
  have hmenusRefused : 400 ≤ menus.status := by omega
  have hcoursesRefused : 400 ≤ courses.status := by omega
  obtain ⟨hmenusIff, hmenusType⟩ := refused_reported_iff true vacant
    ⟨"GET", "/v1/menus", none, none, .empty⟩ hmenusRefused
  obtain ⟨hcoursesIff, -⟩ := refused_reported_iff true vacant
    ⟨"POST", "/v1/packs/kitchen/actions/take", some "actionName=soup&actionName=roast", none,
      .empty⟩ hcoursesRefused
  have hnowhere : Resource.ofPath? "/v1/menus" = none := by decide +kernel
  have hreport : IsReport menus.body := by
    refine hmenusIff.2 fun sent hsent => ?_
    rw [hnowhere] at hsent
    cases hsent
  refine ⟨⟨hmenus, hreport, hmenusType hreport⟩, hcourses, fun hreported => ?_⟩
  exact hcoursesIff.1 hreported (.takeAction "kitchen") (by decide +kernel)
    (.query "kitchen" (by decide +kernel) (by decide +kernel))

end Orchestrator.Api
