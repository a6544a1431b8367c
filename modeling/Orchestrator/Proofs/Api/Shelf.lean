import Orchestrator.Proofs.Api.Errand
import Orchestrator.Proofs.Dict
import Orchestrator.Proofs.Text.Utf8

/-!
The datastore as its clients see it: a shelf on which octets and their type stand under a key. After
any sequence of requests it is answered from what the latest of them have put there.
-/

namespace Orchestrator

/-- What stands under a key: octets, and the type that they came with. -/
structure Sheet where
  contentType : String
  body : List UInt8
  deriving DecidableEq

def DataEntry.sheet (e : DataEntry) : Sheet := ⟨e.contentType, Utf8.octets e.value⟩

namespace Api

open Http (Request Response Target)

/-- The key that a path names, without its escapes. -/
def keyOf? (path : String) : Option String :=
  match Target.segments path with
  | ["v1", "datastore", sent] => if sent.isEmpty then none else Percent.decodeText? sent
  | _ => none

/-- What a request makes of what stands under a key, if it makes anything of it: a body that is
UTF-8 and not too large takes its place, under its type if that can be read, or nothing does. -/
def written? (key : String) (r : Request) : Option (Option Sheet) :=
  if keyOf? r.path = some key then
    match r.method with
    | "PUT" =>
      if r.isOversized || r.text?.isNone then none
      else some (some ⟨r.readableType?.getD "text/plain", r.body.data.toList⟩)
    | "DELETE" => some none
    | _ => none
  else none

/-- What stands under a key after some requests: that which the latest of those has made of it that
have made anything of it. -/
def shelf (requests : List Request) (key : String) : Option Sheet :=
  (requests.reverse.findSome? (written? key)).join

theorem shelf_snoc (requests : List Request) (r : Request) (key : String) :
    shelf (requests ++ [r]) key = (written? key r).getD (shelf requests key) := by
  cases hwritten : written? key r <;> simp [shelf, hwritten]

/-! ## Keys and resources -/

theorem ofPath?_eq_dataEntry {path sent : String} :
    Resource.ofPath? path = some (.dataEntry sent) ↔
      Target.segments path = ["v1", "datastore", sent] ∧ sent.isEmpty = false := by
  unfold Resource.ofPath?
  constructor
  · intro h
    unfold Resource.ofSegments? at h
    split at h
    case h_11 raw hsegments =>
      obtain ⟨hraw, hsent⟩ := Option.ite_none_left_eq_some.1 h
      cases hsent
      exact ⟨hsegments, by simpa using hraw⟩
    all_goals simp at h
  · rintro ⟨hsegments, hsent⟩
    rw [hsegments]
    simp [Resource.ofSegments?, hsent]

theorem unescaped_eq_dataEntry {sent : Resource} {key : String} :
    sent.unescaped = .ok (.dataEntry key) ↔
      ∃ raw, sent = .dataEntry raw ∧ Percent.decodeText? raw = some key := by
  have hunescape (calledAs raw : String) {wrap : String → Resource} :
      wrap <$> Resource.unescape calledAs raw = .ok (.dataEntry key) ↔
        ∃ name, Percent.decodeText? raw = some name ∧ wrap name = .dataEntry key := by
    unfold Resource.unescape
    cases Percent.decodeText? raw <;> simp [Functor.map, Except.map]
  cases sent with
  | actionResult id actionId =>
      simp only [Resource.unescaped, Resource.unescape, Functor.map, Seq.seq]
      cases Percent.decodeText? id <;> cases Percent.decodeText? actionId <;>
        simp [Except.map, Except.bind]
  | health | info | packs | flows | dataKeys => simp [Resource.unescaped]
  | pack _ | packEvents _ | takeAction _ | flow _ | dataEntry _ =>
      simp [Resource.unescaped, hunescape]

theorem keyOf?_eq_some {path key : String} :
    keyOf? path = some key ↔
      ∃ sent, Resource.ofPath? path = some sent ∧ sent.unescaped = .ok (.dataEntry key) := by
  simp only [unescaped_eq_dataEntry]
  constructor
  · intro h
    unfold keyOf? at h
    split at h
    · next raw hsegments =>
      obtain ⟨hraw, hkey⟩ := Option.ite_none_left_eq_some.1 h
      exact ⟨_, ofPath?_eq_dataEntry.2 ⟨hsegments, by simpa using hraw⟩, raw, rfl, hkey⟩
    · cases h
  · rintro ⟨_, hpath, raw, rfl, hkey⟩
    obtain ⟨hsegments, hraw⟩ := ofPath?_eq_dataEntry.1 hpath
    simp [keyOf?, hsegments, hraw, hkey]

/-! ## One request -/

/-- Whatever is not asked of a key of the datastore leaves the data alone. -/
theorem Wants.data_eq {now : Timestamp} {r : Request} {resource : Resource} {method : String}
    {errand : Errand} (h : Wants now r resource method errand)
    (hother : ∀ key, resource ≠ .dataEntry key) (s : Stock) : (s.run errand).data = s.data := by
  cases h with
  | register _ _ | dismiss _ => rfl
  | publish _ _ | complete _ _ _ | take _ _ =>
      simp only [Stock.run]
      split <;> rfl
  | put key _ _ | discard key => exact absurd rfl (hother key)

section

variable {r : Request} {s : Stock}

theorem data_after_of_no_key (now : Timestamp) (hkey : keyOf? r.path = none) :
    (s.after (errand? now r)).data = s.data := by
  cases herrand : errand? now r with
  | none => rfl
  | some errand =>
      obtain ⟨sent, resource, hsent, hresource, hwants⟩ := wants_of_errand? herrand
      refine hwants.data_eq ?_ s
      rintro key rfl
      have hsome : keyOf? r.path = some key := keyOf?_eq_some.2 ⟨sent, hsent, hresource⟩
      rw [hkey] at hsome
      cases hsome

theorem sheet_after_put {key : String} (now : Timestamp) (hkey : keyOf? r.path = some key)
    (hmethod : r.method = "PUT") (k : String) :
    ((s.after (errandAt now r (.dataEntry key) "PUT")).data.get? k).map DataEntry.sheet =
      (written? k r).getD ((s.data.get? k).map DataEntry.sheet) := by
  simp only [written?, hkey, hmethod, errandAt]
  cases hsize : r.isOversized with
  | true => simp [Stock.after]
  | false =>
  cases htext : r.text? with
  | none => simp [Stock.after]
  | some value =>
      have hoctets : r.body.data.toList = Utf8.octets value := Utf8.text?_eq_some.1 htext
      change ((s.data.insert key ⟨key, r.readableType?.getD "text/plain", value, now⟩).get? k).map
        DataEntry.sheet = _
      rw [Dict.get?_insert]
      by_cases hk : k = key
      · simp [hk, hoctets, DataEntry.sheet]
      · simp [hk, Ne.symm hk]

theorem sheet_after_delete {key : String} (now : Timestamp) (hkey : keyOf? r.path = some key)
    (hmethod : r.method = "DELETE") (k : String) :
    ((s.after (errandAt now r (.dataEntry key) "DELETE")).data.get? k).map DataEntry.sheet =
      (written? k r).getD ((s.data.get? k).map DataEntry.sheet) := by
  simp only [written?, hkey, hmethod]
  change ((s.data.erase key).get? k).map DataEntry.sheet = _
  rw [Dict.get?_erase]
  by_cases hk : k = key
  · simp [hk]
  · simp [hk, Ne.symm hk]

/-- What stands under each key after a request is what the request makes of it. -/
theorem sheet_after (now : Timestamp) (k : String) :
    ((s.after (errand? now r)).data.get? k).map DataEntry.sheet =
      (written? k r).getD ((s.data.get? k).map DataEntry.sheet) := by
  cases hkey : keyOf? r.path with
  | none =>
      rw [data_after_of_no_key now hkey, written?, hkey]
      rfl
  | some key =>
      obtain ⟨sent, hsent, hresource⟩ := keyOf?_eq_some.1 hkey
      rw [errand?_of_path hsent hresource]
      by_cases hput : r.method = "PUT"
      · rw [hput]
        exact sheet_after_put now hkey hput k
      by_cases hdelete : r.method = "DELETE"
      · rw [hdelete]
        exact sheet_after_delete now hkey hdelete k
      have hnone : errandAt now r (.dataEntry key) r.method = none := by
        cases herrand : errandAt now r (.dataEntry key) r.method with
        | none => rfl
        | some errand =>
            obtain ⟨hmem, hnot⟩ := method_of_errandAt herrand
            simp_all [Resource.methods]
      have hunwritten : written? k r = none := by
        unfold written?
        split
        · split <;> simp_all
        · rfl
      rw [hnone, hunwritten]
      rfl

end

/-! ## Answers -/

/-- A hub answers what is asked of the datastore as a shelf does on which this stands. -/
structure Presents (shared : Bool) (s : Hub) (held : String → Option Sheet) : Prop where
  put : ∀ r key, keyOf? r.path = some key → r.method = "PUT" → r.isOversized = false →
    (serve shared s r).1.status =
      if r.text?.isNone then 400 else if (held key).isSome then 204 else 201
  get : ∀ r key, keyOf? r.path = some key → r.method = "GET" →
    (∀ sheet, held key = some sheet → (serve shared s r).1.status = 200 ∧
      (serve shared s r).1.contentType = some sheet.contentType ∧
      Utf8.octets (serve shared s r).1.body = sheet.body) ∧
    (held key = none → (serve shared s r).1.status = 404)
  delete : ∀ r key, keyOf? r.path = some key → r.method = "DELETE" →
    (serve shared s r).1.status = if (held key).isSome then 204 else 404
  list : ∀ r, Target.segments r.path = ["v1", "datastore"] → r.method = "GET" →
    (serve shared s r).1.status = 200 ∧ ∃ keys : List String,
      (serve shared s r).1.body = (envelope (.strings keys) "/v1/datastore" "/v1").text ∧
        keys.Pairwise (· < ·) ∧ ∀ key, key ∈ keys ↔ (held key).isSome = true

section

variable {shared : Bool} {s : Hub} {r : Request} {key : String}

theorem serve_entry (hkey : keyOf? r.path = some key)
    (hmethod : r.method ∈ ["GET", "PUT", "DELETE"]) :
    (serve shared s r).1 = outgoing shared ((handle (.dataEntry key) r.method r).run s).1 := by
  obtain ⟨sent, hsent, hresource⟩ := keyOf?_eq_some.1 hkey
  have hhead : r.method ≠ "HEAD" := by rintro h; simp [h] at hmethod
  have hoptions : r.method ≠ "OPTIONS" := by rintro h; simp [h] at hmethod
  have hcontains : (Resource.dataEntry key).methods.contains r.method = true := by
    simp only [List.mem_cons, List.not_mem_nil, or_false] at hmethod
    rcases hmethod with h | h | h <;> simp [h, Resource.methods]
  rw [serve_eq_outgoing hhead hoptions, run_route_of_path hsent hresource hcontains hhead]

end

theorem presents_of_holds {s : Hub} {held : String → Option Sheet} (shared : Bool)
    (hheld : ∀ key, (s.data.get? key).map DataEntry.sheet = held key)
    (htype : ∀ key sheet, held key = some sheet → Http.isHeaderValue sheet.contentType = true) :
    Presents shared s held := by
  have hstored (key : String) : (held key).isSome = s.data.contains key := by
    rw [← hheld, Option.isSome_map]
    rfl
  constructor
  case put =>
    intro r key hkey hmethod hsize
    rw [serve_entry hkey (by simp [hmethod]), hmethod, hstored]
    change (outgoing shared ((putData key r).run s).1).status = _
    rw [run_putData, hsize]
    cases r.text? with
    | none => exact outgoing_error_status shared _
    | some value =>
        refine (outgoing_ok_status shared _).trans ?_
        cases s.data.contains key <;> rfl
  case get =>
    intro r key hkey hmethod
    rw [serve_entry hkey (by simp [hmethod]), hmethod, ← hheld]
    change (∀ sheet, _ → (outgoing shared ((getData key).run s).1).status = _ ∧
      (outgoing shared ((getData key).run s).1).contentType = _ ∧
      Utf8.octets (outgoing shared ((getData key).run s).1).body = _) ∧
      (_ → (outgoing shared ((getData key).run s).1).status = _)
    rw [run_getData]
    cases hentry : s.data.get? key with
    | none => exact ⟨nofun, fun _ => outgoing_error_status shared _⟩
    | some entry =>
        have hvalue : Http.isHeaderValue entry.contentType = true :=
          htype key entry.sheet (by rw [← hheld, hentry]; rfl)
        refine ⟨?_, nofun⟩
        rintro _ ⟨⟩
        simp only [hvalue, if_true]
        cases shared <;> exact ⟨rfl, rfl, rfl⟩
  case delete =>
    intro r key hkey hmethod
    rw [serve_entry hkey (by simp [hmethod]), hmethod, hstored]
    change (outgoing shared ((deleteData key).run s).1).status = _
    rw [run_deleteData]
    cases s.data.contains key with
    | true => exact outgoing_ok_status shared _
    | false => exact outgoing_error_status shared _
  case list =>
    intro r hsegments hmethod
    have hpath : Resource.ofPath? r.path = some .dataKeys := by
      rw [Resource.ofPath?, hsegments]
      rfl
    rw [serve_eq_outgoing (by simp [hmethod]) (by simp [hmethod]),
      run_route_of_path hpath rfl (by simp [hmethod, Resource.methods]) (by simp [hmethod]),
      hmethod]
    refine ⟨outgoing_ok_status shared _, s.data.keys, ?_, s.data.keys_pairwise, fun key => ?_⟩
    · cases shared <;> rfl
    · rw [hstored, Dict.mem_keys, Dict.contains_iff]

/-! ## Any sequence of requests -/

theorem isHeaderValue_of_shelf {requests : List Request} {key : String} {sheet : Sheet}
    (h : shelf requests key = some sheet) : Http.isHeaderValue sheet.contentType = true := by
  obtain ⟨r, -, hwritten⟩ := List.exists_of_findSome?_eq_some (Option.join_eq_some_iff.1 h)
  unfold written? at hwritten
  split at hwritten
  · split at hwritten
    · obtain ⟨-, hsheet⟩ := Option.ite_none_left_eq_some.1 hwritten
      obtain rfl := Option.some.inj (Option.some.inj hsheet)
      exact isHeaderValue_of_readableType? r
    · cases Option.some.inj hwritten
    · cases hwritten
  · cases hwritten

theorem sheet_of_served {shared : Bool} {visits : List Visit} {s : Hub}
    (h : Served shared visits s) (key : String) :
    (s.data.get? key).map DataEntry.sheet = shelf (visits.map Visit.request) key := by
  induction h with
  | start mode supply => rfl
  | @request visits s h r ih =>
      have hdata : (serve shared s r).2.data = (s.stock.after (errand? s.reading r)).data :=
        congrArg Stock.data (stock_serve shared s r)
      rw [hdata, sheet_after, List.map_append, List.map_singleton, shelf_snoc, ← ih]
      rfl
  | @chore visits s s' h hchore ih =>
      have hdata : s'.data = s.data := by
        cases hchore with
        | sweep now grace =>
            unfold Hub.sweep
            split <;> rfl
        | other hstock => exact congrArg Stock.data hstock
      rw [hdata, ih]

/-- After any sequence of requests, and of whatever is done between them, the datastore is answered
from the shelf that the requests have filled. -/
theorem datastore_presents_shelf {shared : Bool} {visits : List Visit} {s : Hub}
    (h : Served shared visits s) : Presents shared s (shelf (visits.map Visit.request)) :=
  presents_of_holds shared (sheet_of_served h) fun _ _ => isHeaderValue_of_shelf

/-! ## Milk of two kinds -/

def oats (method : String) (contentType : Option String) (body : String) : Request where
  method
  path := "/v1/datastore/oat%20milk"
  query := none
  contentType
  body := body.toUTF8

/-- The second of two bodies comes back, and the key is not new any more. -/
theorem oats_replaced :
    ∃ visits s, Served false visits s ∧
      visits.map Visit.request = [oats "PUT" none "oat", oats "PUT" (some "text/csv") "oat,2"] ∧
      (serve false s (oats "PUT" none "")).1.status = 204 ∧
      (serve false s (oats "GET" none "")).1.contentType = some "text/csv" ∧
      Utf8.octets (serve false s (oats "GET" none "")).1.body = Utf8.octets "oat,2" := by
  have hpantry : Served false [] (.empty .any fun _ => default) := .start .any _
  have hserved := (hpantry.request (oats "PUT" none "oat")).request
    (oats "PUT" (some "text/csv") "oat,2")
  have hpresents := datastore_presents_shelf hserved
  have hkey : keyOf? "/v1/datastore/oat%20milk" = some "oat milk" := by decide +kernel
  have hheld : shelf [oats "PUT" none "oat", oats "PUT" (some "text/csv") "oat,2"] "oat milk" =
      some ⟨"text/csv", Utf8.octets "oat,2"⟩ := by
    decide +kernel
  have hput := hpresents.put (oats "PUT" none "") "oat milk" hkey rfl (by decide +kernel)
  have hget := (hpresents.get (oats "GET" none "") "oat milk" hkey rfl).1 _ hheld
  have htext : ¬ (oats "PUT" none "").text?.isNone = true := by decide +kernel
  have hstored : (shelf [oats "PUT" none "oat", oats "PUT" (some "text/csv") "oat,2"]
      "oat milk").isSome = true := by
    rw [hheld]
    rfl
  refine ⟨_, _, hserved, rfl, ?_, hget.2.1, hget.2.2⟩
  exact hput.trans ((if_neg htext).trans (if_pos hstored))

end Api

end Orchestrator
