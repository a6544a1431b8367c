import Orchestrator.Proofs.Api.Serving
import Orchestrator.Proofs.Http.Path
import Orchestrator.Proofs.Store.Flow

/-!
Whether the links to what clients have named lead anywhere.

A name stands in its link as it is, but a link is read as the target of a request: a part of it may
be cut off, refused, taken for a separator or for an escape. A link leads to what it was made for
exactly if none of this happens to the name, and else to nothing that its request has created.
-/

namespace Orchestrator.Api

open Http (Request Response Target)

/-- The kinds of resources whose names clients choose. -/
inductive Named where
  | flow
  | dataEntry

namespace Named

def resource : Named → String → Resource
  | flow => .flow
  | dataEntry => .dataEntry

/-- The link that the service gives to a resource of a name. -/
def link : Named → String → String
  | flow => flowPath
  | dataEntry => dataPath

/-- The segment of links that stands before the name. -/
def collection : Named → List Char
  | flow => "flows".toList
  | dataEntry => "datastore".toList

/-- What a name in a path is called if it cannot be read. -/
def calledAs : Named → String
  | flow => "name"
  | dataEntry => "key"

end Named

/-- A name is read back from its link as it is. -/
structure IsPlain (name : String) : Prop where
  chars : ∀ c ∈ name.toList, Target.isPathChar c = true ∧ c ≠ '/'
  noEscape : ¬ Percent.HasEscape (Utf8.octets name)

/-- The answer to who follows a link, if the link is the target of a request at all. -/
def follow (shared : Bool) (s : Hub) (link : String) : Option Response :=
  (Target.parse? link).map fun target =>
    (serve shared s ⟨"GET", target.path, target.query, none, .empty⟩).1

/-! ## From a link to its resource -/

/-- What stands before the name in a link. -/
def Named.front (kind : Named) : List Char :=
  [] ++ '/' :: (['v', '1'] ++ '/' :: (kind.collection ++ ['/']))

section

variable {kind : Named} {name : String}

theorem link_toList : (kind.link name).toList = kind.front ++ name.toList := by
  cases kind <;> exact String.toList_append

theorem front_pathChars : ∀ c ∈ kind.front, Target.isPathChar c = true := by
  rw [← List.all_eq_true]
  cases kind <;> decide

theorem segments_link :
    Target.segments (kind.link name) = "v1" :: String.ofList kind.collection ::
      (Text.splitAt '/' name.toList).map String.ofList := by
  have hcollection : '/' ∉ kind.collection := by cases kind <;> decide
  have hversion : '/' ∉ ['v', '1'] := by decide
  have hfront : kind.front ++ name.toList =
      [] ++ '/' :: (['v', '1'] ++ '/' :: (kind.collection ++ '/' :: name.toList)) := by
    simp [Named.front]
  have hcut : Text.splitAt '/' (kind.link name).toList =
      [] :: ['v', '1'] :: kind.collection :: Text.splitAt '/' name.toList := by
    rw [link_toList, hfront, Text.splitAt_append List.not_mem_nil, Text.splitAt_append hversion,
      Text.splitAt_append hcollection]
  rw [Target.segments, hcut]
  rfl

/-- Whatever is below a collection has one segment more, which is not empty. -/
theorem ofSegments?_collection (segment : String) (segments : List String) :
    Resource.ofSegments? ("v1" :: String.ofList kind.collection :: segment :: segments) =
      if segments ≠ [] ∨ segment = "" then none else some (kind.resource segment) := by
  have hflows : String.ofList Named.flow.collection = "flows" := String.ofList_toList
  have hdata : String.ofList Named.dataEntry.collection = "datastore" := String.ofList_toList
  cases kind with
  | flow =>
      rw [hflows]
      cases segments <;> simp [Resource.ofSegments?, Named.resource]
  | dataEntry =>
      rw [hdata]
      cases segments <;> simp [Resource.ofSegments?, Named.resource]

theorem ofPath?_link :
    Resource.ofPath? (kind.link name) =
      if '/' ∈ name.toList ∨ name = "" then none else some (kind.resource name) := by
  rw [Resource.ofPath?, segments_link]
  by_cases hslash : '/' ∈ name.toList
  · obtain ⟨before, after, hname, hbefore⟩ := List.eq_append_cons_of_mem hslash
    have hmore : (Text.splitAt '/' after).map String.ofList ≠ [] := by
      simpa using Text.splitAt_ne_nil '/' after
    rw [hname, Text.splitAt_append hbefore, List.map_cons, ofSegments?_collection, ← hname]
    simp [hmore, hslash]
  · rw [Text.splitAt_of_not_mem hslash, List.map_singleton, String.ofList_toList,
      ofSegments?_collection]
    simp [hslash]

/-- A link may lose its end, and leads then to what another name would stand for. -/
theorem path_of_link {target : Target} (h : Target.parse? (kind.link name) = some target) :
    ∃ sent rest, target.path = kind.link sent ∧ sent ++ rest = name ∧
      ∀ c ∈ sent.toList, Target.isPathChar c = true := by
  have hslash : (kind.link name).toList = '/' :: (['v', '1'] ++ '/' :: (kind.collection ++ ['/'])
      ++ name.toList) := link_toList
  rw [Target.parse?_of_slash hslash, link_toList] at h
  obtain ⟨sent, rest, hpath, hname, hchars⟩ := Target.ofPath?_append front_pathChars h
  refine ⟨String.ofList sent, String.ofList rest, ?_, ?_, ?_⟩
  · rw [← String.toList_inj, link_toList, String.toList_ofList, hpath]
  · rw [← String.toList_inj, String.toList_append, String.toList_ofList, String.toList_ofList,
      hname]
  · rwa [String.toList_ofList]

theorem IsPlain.parse?_link (h : IsPlain name) :
    Target.parse? (kind.link name) = some ⟨kind.link name, none⟩ := by
  have hslash : (kind.link name).toList = '/' :: (['v', '1'] ++ '/' :: (kind.collection ++ ['/'])
      ++ name.toList) := link_toList
  have hchars : ∀ c ∈ (kind.link name).toList, Target.isPathChar c = true := by
    intro c hc
    rw [link_toList, List.mem_append] at hc
    rcases hc with hc | hc
    · exact front_pathChars c hc
    · exact (h.chars c hc).1
  rw [Target.parse?_of_slash hslash, Target.ofPath?_of_pathChars hchars, String.ofList_toList]

theorem unescaped_eq (sent : String) :
    (kind.resource sent).unescaped = match Percent.decodeText? sent with
      | some name => .ok (kind.resource name)
      | none => .error kind.calledAs := by
  cases kind <;> simp only [Named.resource, Resource.unescaped, Resource.unescape] <;>
    cases Percent.decodeText? sent <;> rfl

/-- Only the link of a plain name leads to the resource of the name. -/
theorem isPlain_of_link {target : Target} (h : Target.parse? (kind.link name) = some target)
    {sent : String} (hpath : target.path = kind.link sent) (hslash : '/' ∉ sent.toList)
    (hname : Percent.decodeText? sent = some name) : IsPlain name := by
  obtain ⟨sent', rest, hpath', hrest, hchars⟩ := path_of_link h
  obtain rfl : sent = sent' := by
    have heq := congrArg String.toList (hpath.symm.trans hpath')
    rw [link_toList, link_toList] at heq
    exact String.toList_inj.1 (List.append_cancel_left heq)
  obtain ⟨rfl, hescape⟩ := Percent.eq_of_decodeText? hrest hname
  exact ⟨fun c hc => ⟨hchars c hc, fun heq => hslash (heq ▸ hc)⟩, hescape⟩

end

/-! ## What a link leads to -/

/-- What the resource of a name answers to who asks for it. -/
def Named.found (kind : Named) (s : Hub) (name : String) : Except Response Response :=
  ((handle (kind.resource name) "GET" default).run s).1

theorem run_handle_get (kind : Named) (name : String) (r : Request) (s : Hub) :
    (handle (kind.resource name) "GET" r).run s = (kind.found s name, s) := by
  refine Prod.ext (by cases kind <;> rfl) ?_
  cases kind with
  | flow =>
      change ((getFlow name).run s).2 = s
      simp only [getFlow, run_bind, run_get]
      cases s.flows.get? name <;> rfl
  | dataEntry =>
      change ((getData name).run s).2 = s
      simp only [getData, run_bind, run_get]
      cases s.data.get? name with
      | none => rfl
      | some entry => dsimp only; split <;> rfl

section

variable {kind : Named} {name : String} {s s' : Hub}

/-- A flow is looked up in the flows, and an entry in the data. -/
theorem found_congr (hflows : kind = .flow → s.flows.get? name = s'.flows.get? name)
    (hdata : kind = .dataEntry → s.data.get? name = s'.data.get? name) :
    kind.found s name = kind.found s' name := by
  cases kind with
  | flow =>
      change ((getFlow name).run s).1 = ((getFlow name).run s').1
      simp only [getFlow, run_bind, run_get, hflows rfl]
      cases s'.flows.get? name <;> rfl
  | dataEntry =>
      change ((getData name).run s).1 = ((getData name).run s').1
      simp only [getData, run_bind, run_get, hdata rfl]
      cases s'.data.get? name with
      | none => rfl
      | some entry => dsimp only; split <;> rfl

/-- How a path below a collection is answered, whatever has been cut off its end. -/
theorem run_route_link {r : Request} {sent : String} (hmethod : r.method = "GET")
    (hpath : r.path = kind.link sent) (s : Hub) :
    ((route r).run s).1 =
      if '/' ∈ sent.toList ∨ sent = "" then .error (refusal (.notFound "Not found"))
      else match Percent.decodeText? sent with
        | some other => kind.found s other
        | none => .error (.plain 400
            ("Invalid URL: Invalid UTF-8 in " ++ DecodeError.ticked kind.calledAs)) := by
  have hget : ∀ n, (kind.resource n).methods.contains r.method = true := by
    intro n
    rw [hmethod]
    cases kind <;> rfl
  have hsent : Resource.ofPath? r.path =
      if '/' ∈ sent.toList ∨ sent = "" then none else some (kind.resource sent) := by
    rw [hpath, ofPath?_link]
  have hresource : (kind.resource sent).unescaped = _ := unescaped_eq sent
  by_cases hnone : '/' ∈ sent.toList ∨ sent = ""
  · rw [if_pos hnone] at hsent ⊢
    rw [run_route_of_no_path hsent]
  · rw [if_neg hnone] at hsent ⊢
    cases hother : Percent.decodeText? sent with
    | none =>
        rw [hother] at hresource
        rw [run_route_of_unreadable hsent hresource (hget sent)]
    | some other =>
        rw [hother] at hresource
        rw [run_route_of_path hsent hresource (hget other) (by simp [hmethod]), hmethod,
          run_handle_get]

theorem follow_eq (shared : Bool) (s : Hub) (link : String) :
    follow shared s link = (Target.parse? link).map fun target =>
      outgoing shared ((route ⟨"GET", target.path, target.query, none, .empty⟩).run s).1 := by
  unfold follow
  congr 1
  funext target
  rw [serve_eq_outgoing (by simp) (by simp)]

theorem follow_of_isPlain (h : IsPlain name) (hname : name ≠ "") (shared : Bool) :
    follow shared s (kind.link name) = some (outgoing shared (kind.found s name)) := by
  have hslash : '/' ∉ name.toList := fun hmem => (h.chars '/' hmem).2 rfl
  have hself : Percent.decodeText? name = some name :=
    Percent.decodeText?_eq_some.2 ((Percent.decode_eq_self_iff _).2 h.noEscape)
  rw [follow_eq, h.parse?_link, Option.map_some, run_route_link rfl rfl]
  simp [hslash, hname, hself]

/-- The link of a name that is not plain is no way to the resource of the name, whatever it is. -/
theorem follow_of_not_isPlain (h : ¬ IsPlain name) (shared : Bool)
    (hsame : ∀ other ≠ name, kind.found s other = kind.found s' other) :
    follow shared s (kind.link name) = follow shared s' (kind.link name) := by
  rw [follow_eq, follow_eq]
  cases htarget : Target.parse? (kind.link name) with
  | none => rfl
  | some target =>
  obtain ⟨sent, rest, hsent, -⟩ := path_of_link htarget
  rw [Option.map_some, Option.map_some, run_route_link rfl hsent, run_route_link rfl hsent]
  by_cases hnone : '/' ∈ sent.toList ∨ sent = ""
  · rw [if_pos hnone, if_pos hnone]
  · rw [if_neg hnone, if_neg hnone]
    rw [not_or] at hnone
    cases hother : Percent.decodeText? sent with
    | none => rfl
    | some other =>
        have hne : other ≠ name := by
          rintro rfl
          exact h (isPlain_of_link htarget hsent hnone.1 hother)
        dsimp only
        rw [hsame other hne]

end

/-! ## What requests create -/

/-- The request stores a new flow or a value under a new key, and is told so. -/
inductive Creates (shared : Bool) (s : Hub) (r : Request) : Named → String → Prop where
  | flow {sent : FlowDefinition} (hmethod : r.method = "POST")
      (hpath : Resource.ofPath? r.path = some .flows)
      (hread : r.payload FlowDefinition.read = .ok sent)
      (hstatus : (serve shared s r).1.status = 201) : Creates shared s r .flow sent.name
  | dataEntry {raw key : String} (hmethod : r.method = "PUT")
      (hpath : Resource.ofPath? r.path = some (.dataEntry raw))
      (hkey : Percent.decodeText? raw = some key)
      (hstatus : (serve shared s r).1.status = 201) : Creates shared s r .dataEntry key

/-- An answer gives back what a request has created: of a flow the same document as the response to
the request, and of a value the text and the type of the request. -/
def GivesBack (r : Request) (created found : Response) : Named → Prop
  | .flow => found = { created with status := 200, location := none }
  | .dataEntry => ∃ value, r.text? = some value ∧
      found = { created with
        status := 200
        location := none
        contentType := some (r.readableType?.getD "text/plain")
        body := value }

/-- What a request has created, given how it was served, and what it has left alone. -/
structure Created (shared : Bool) (r : Request) (kind : Named) (name : String) (s : Hub)
    (served : Response × Hub) : Prop where
  nonempty : name ≠ ""
  location : served.1.location = (some (kind.link name)).filter Http.isHeaderValue
  self : kind = .flow → ∃ flow, served.2.flows.get? name = some flow ∧ flow.name = name ∧
    served.1.body = (envelope flow.toJson (kind.link name) "/v1/flows").text
  found : GivesBack r served.1 (outgoing shared (kind.found served.2 name)) kind
  others : ∀ other ≠ name, kind.found served.2 other = kind.found s other

theorem registerFlow_created {shared : Bool} {s : Hub} {r : Request} {sent : FlowDefinition}
    (hmethod : r.method = "POST") (hpath : Resource.ofPath? r.path = some .flows)
    (hread : r.payload FlowDefinition.read = .ok sent)
    (hstatus : (serve shared s r).1.status = 201) :
    Created shared r .flow sent.name s (serve shared s r) := by
  have hpost : Resource.flows.methods.contains r.method = true := by
    rw [hmethod]
    rfl
  have hserve := serve_eq_outgoing (r := r) (by simp [hmethod]) (by simp [hmethod]) shared s
  rw [run_route_of_path hpath rfl hpost (by simp [hmethod]), hmethod] at hserve
  change serve shared s r = (outgoing shared ((registerFlow r).run s).1, ((registerFlow r).run s).2)
    at hserve
  rcases registerFlow_cases r s with ⟨response, hrun, hrefused⟩ | ⟨sent', hread', hvalid, hrun⟩
  · rw [hserve, hrun, outgoing_error_status] at hstatus
    omega
  obtain rfl := Except.ok.inj (hread.symm.trans hread')
  replace hrun := hrun _ rfl
  have hname : (s.flows.add { sent with uuid := none } (s.supply s.used).uuid).1.name = sent.name :=
    rfl
  have hget := s.flows.get?_add { sent with uuid := none } (s.supply s.used).uuid
  generalize s.flows.add { sent with uuid := none } (s.supply s.used).uuid = stored at *
  rw [hrun] at hserve
  have hstored : stored.2.get? sent.name = some stored.1 := by rw [hget, if_pos rfl]
  rw [hserve]
  exact {
    nonempty := FlowDefinition.name_ne_empty_of_validate hvalid
    location := by
      rw [← hname]
      cases shared <;> rfl
    self := fun _ => ⟨stored.1, hstored, hname, by rw [← hname]; cases shared <;> rfl⟩
    found := by
      have hfound : Named.flow.found { s with flows := stored.2, used := s.used + 1 } sent.name =
          .ok (.json 200 (envelope stored.1.toJson (flowPath sent.name) "/v1/flows")) := by
        change ((getFlow sent.name).run _).1 = _
        simp only [getFlow, run_bind, run_get, hstored]
        rfl
      change outgoing shared _ = _
      rw [hfound, hname]
      cases shared <;> rfl
    others := by
      intro other hne
      refine found_congr (fun _ => ?_) nofun
      exact (hget other).trans (if_neg hne) }

theorem putData_created {shared : Bool} {s : Hub} {r : Request} {raw key : String}
    (hmethod : r.method = "PUT") (hpath : Resource.ofPath? r.path = some (.dataEntry raw))
    (hkey : Percent.decodeText? raw = some key) (hstatus : (serve shared s r).1.status = 201) :
    Created shared r .dataEntry key s (serve shared s r) := by
  have hresource : (Resource.dataEntry raw).unescaped = .ok (.dataEntry key) := by
    have hread : (Named.dataEntry.resource raw).unescaped = _ := unescaped_eq raw
    rw [hkey] at hread
    exact hread
  have hput : (Resource.dataEntry key).methods.contains r.method = true := by
    rw [hmethod]
    rfl
  have hserve := serve_eq_outgoing (r := r) (by simp [hmethod]) (by simp [hmethod]) shared s
  rw [run_route_of_path hpath hresource hput (by simp [hmethod]), hmethod] at hserve
  change serve shared s r = (outgoing shared ((putData key r).run s).1, ((putData key r).run s).2)
    at hserve
  rcases putData_cases key r s with ⟨response, hrun, hrefused⟩ | ⟨value, htext, hrun⟩
  · rw [hserve, hrun, outgoing_error_status] at hstatus
    omega
  replace hrun := hrun _ rfl
  have hnew : s.data.contains key = false := by
    rw [hserve, hrun] at hstatus
    cases hcontains : s.data.contains key with
    | false => rfl
    | true => simp [hcontains, noContent, Response.empty] at hstatus
  rw [hnew] at hrun
  rw [hrun] at hserve
  rw [hserve]
  exact {
    nonempty := Percent.ne_empty_of_decodeText? hkey (Resource.ne_empty_of_ofPath? hpath)
    location := by cases shared <;> rfl
    self := nofun
    found := by
      refine ⟨value, htext, ?_⟩
      have hfound (entry : DataEntry)
          (htype : entry.contentType = r.readableType?.getD "text/plain") :
          Named.dataEntry.found { s with data := s.data.insert key entry, used := s.used + 1 } key =
            .ok { Response.empty 200 with
              contentType := some (r.readableType?.getD "text/plain")
              body := entry.value } := by
        change ((getData key).run _).1 = _
        simp only [run_getData, Dict.get?_insert_self, htype, isHeaderValue_of_readableType?,
          if_true]
      rw [hfound _ rfl]
      cases shared <;> rfl
    others := by
      intro other hne
      refine found_congr nofun (fun _ => ?_)
      exact (Dict.get?_insert _ _ _ _).trans (if_neg hne) }

theorem Creates.created {shared : Bool} {s : Hub} {r : Request} {kind : Named} {name : String}
    (h : Creates shared s r kind name) : Created shared r kind name s (serve shared s r) := by
  cases h with
  | flow hmethod hpath hread hstatus => exact registerFlow_created hmethod hpath hread hstatus
  | dataEntry hmethod hpath hkey hstatus => exact putData_created hmethod hpath hkey hstatus

theorem isHeaderValue_link {kind : Named} {name : String} :
    Http.isHeaderValue (kind.link name) = Http.isHeaderValue name := by
  have hfront : kind.front.all Http.isHeaderChar = true := by cases kind <;> decide
  rw [Http.isHeaderValue, link_toList, List.all_append, hfront, Bool.true_and, Http.isHeaderValue]

/-- The response to a request that creates something carries the link to it exactly if a header can
hold the name; of a flow the body always does. As long as nothing is changed, the link then leads to
what was created if the name is plain. If it is not, whoever follows the link is answered as if the
request had never been made. -/
theorem created_link {shared : Bool} {s : Hub} {r : Request} {kind : Named}
    {name : String} (h : Creates shared s r kind name) :
    let response := (serve shared s r).1
    let after := (serve shared s r).2
    (response.location = some (kind.link name) ↔ Http.isHeaderValue name = true) ∧
      (kind = .flow → ∃ flow, after.flows.get? name = some flow ∧ flow.name = name ∧
        response.body = (envelope flow.toJson (kind.link name) "/v1/flows").text) ∧
      ∀ later : Hub, later.flows = after.flows → later.data = after.data →
        (IsPlain name → ∃ found, follow shared later (kind.link name) = some found ∧
          GivesBack r response found kind) ∧
        (¬ IsPlain name →
          follow shared later (kind.link name) = follow shared s (kind.link name)) := by
  have hcreated := h.created
  refine ⟨?_, hcreated.self, fun later hflows hdata => ⟨fun hplain => ?_, fun hnot => ?_⟩⟩
  · rw [hcreated.location]
    simp [Option.filter_some, isHeaderValue_link]
  · have hsame : kind.found later name = kind.found (serve shared s r).2 name :=
      found_congr (fun _ => by rw [hflows]) (fun _ => by rw [hdata])
    rw [follow_of_isPlain hplain hcreated.nonempty, hsame]
    exact ⟨_, rfl, hcreated.found⟩
  · apply follow_of_not_isPlain hnot
    intro other hne
    rw [← hcreated.others other hne]
    exact found_congr (fun _ => by rw [hflows]) (fun _ => by rw [hdata])

/-- Milk is put under a key, as the path of the request has it. -/
def milk (key : String) : Request where
  method := "PUT"
  path := dataPath key
  query := none
  contentType := none
  body := "oat".toUTF8

/-- An orchestrator to which nobody has told anything. -/
def bare : Hub := .empty .any fun _ => default

theorem milk_found :
    Creates false bare (milk "milk") .dataEntry "milk" ∧ IsPlain "milk" ∧
      ∃ found, follow false (serve false bare (milk "milk")).2 "/v1/datastore/milk" = some found ∧
        found.status = 200 ∧ found.body = "oat" := by
  have hpath : Resource.ofPath? (milk "milk").path = some (.dataEntry "milk") := by decide +kernel
  have hkey : Percent.decodeText? "milk" = some "milk" := by decide +kernel
  have hstatus : (serve false bare (milk "milk")).1.status = 201 := by decide +kernel
  have hcreates : Creates false bare (milk "milk") .dataEntry "milk" :=
    .dataEntry rfl hpath hkey hstatus
  have hchars : ("milk".toList.all fun c => Target.isPathChar c && c != '/') = true := by decide
  have hplain : IsPlain "milk" := by
    constructor
    · simpa only [List.all_eq_true, Bool.and_eq_true, bne_iff_ne] using hchars
    · rw [← Percent.decode_eq_self_iff]
      decide +kernel
  obtain ⟨-, -, hlater⟩ := created_link hcreates
  obtain ⟨found, hfollow, value, hvalue, hfound⟩ := (hlater _ rfl rfl).1 hplain
  have htext : (milk "milk").text? = some "oat" := by decide +kernel
  obtain rfl := Option.some.inj (htext.symm.trans hvalue)
  exact ⟨hcreates, hplain, found, hfollow, by rw [hfound], by rw [hfound]⟩

/-- A slash in a key ends a segment of its link. -/
theorem tea_milk_lost :
    Creates false bare (milk "tea%2Fmilk") .dataEntry "tea/milk" ∧
      (serve false bare (milk "tea%2Fmilk")).1.location = some "/v1/datastore/tea/milk" ∧
      (follow false (serve false bare (milk "tea%2Fmilk")).2 "/v1/datastore/tea/milk").map
        (·.status) = some 404 := by
  have hpath : Resource.ofPath? (milk "tea%2Fmilk").path = some (.dataEntry "tea%2Fmilk") := by
    decide +kernel
  have hkey : Percent.decodeText? "tea%2Fmilk" = some "tea/milk" := by decide +kernel
  have hstatus : (serve false bare (milk "tea%2Fmilk")).1.status = 201 := by decide +kernel
  exact ⟨.dataEntry rfl hpath hkey hstatus, by decide +kernel, by decide +kernel⟩

end Orchestrator.Api
