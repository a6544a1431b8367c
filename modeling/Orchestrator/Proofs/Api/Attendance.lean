import Orchestrator.Proofs.Api.Errand
import Orchestrator.Proofs.Store.Pack

/-!
When packs were last seen. After any sequence of requests that is the moment of the last request
with which a pack has shown that it is there, whatever the request was answered, and a sweep removes
just the packs that have shown nothing of themselves for too long.
-/

namespace Orchestrator

namespace Errand

/-- The pack that shows that it is there. -/
def attends? : Errand → Option String
  | register pack _ => some (Pack.deriveId pack.name pack.labels)
  | attend id _ => some id
  | _ => none

def dismisses? : Errand → Option String
  | dismiss id => some id
  | _ => none

def moment? : Errand → Option Timestamp
  | register _ now | attend _ now => some now
  | put entry => some entry.updatedAt
  | _ => none

end Errand

/-- Packs stand under their own identifiers. -/
def PackStore.Keyed (s : PackStore) : Prop := ∀ id p, s.get? id = some p → p.id = id

/-! ## One errand -/

namespace Stock

variable {s : Stock} {id : String} {p : Pack}

theorem get?_run (hkeyed : s.packs.Keyed) (errand : Errand) (id : String) :
    (s.run errand).packs.get? id = match errand with
      | .register pack now =>
        if id = Pack.deriveId pack.name pack.labels then
          some { pack.refreshId with lastSeen := now }
        else s.packs.get? id
      | .dismiss key => if id = key then none else s.packs.get? id
      | .attend key now =>
        if id = key then (s.packs.get? id).map fun p => { p with lastSeen := now }
        else s.packs.get? id
      | _ => s.packs.get? id := by
  cases errand with
  | register pack now => exact PackStore.get?_register s.packs pack now id
  | dismiss key =>
      simp only [run]
      cases hremove : s.packs.remove key with
      | ok packs => exact PackStore.get?_of_remove hremove id
      | error e =>
          have hmissing : s.packs.get? key = none := by
            unfold PackStore.remove at hremove
            split at hremove
            · cases hremove
            · next hcontains => exact Dict.contains_eq_false.1 (by simpa using hcontains)
          by_cases hid : id = key <;> simp [Except.toOption, hid, hmissing]
  | attend key now =>
      simp only [run]
      cases hpack : s.packs.get? key with
      | none => by_cases hid : id = key <;> simp [hid, hpack]
      | some pack =>
          obtain rfl := hkeyed key pack hpack
          exact PackStore.get?_touch s.packs pack.id now id
  | put _ | discard _ => rfl

variable {errand : Errand}

/-- A pack that is stored and shows that it is there was last seen at the moment of the errand. -/
theorem lastSeen_of_attends (hkeyed : s.packs.Keyed) (hid : errand.attends? = some id)
    (hp : (s.run errand).packs.get? id = some p) :
    p.id = id ∧ errand.moment? = some p.lastSeen := by
  rw [get?_run hkeyed] at hp
  cases errand with
  | register pack now =>
      obtain rfl := Option.some.inj hid
      obtain rfl : { pack.refreshId with lastSeen := now } = p := by simpa using hp
      exact ⟨rfl, rfl⟩
  | attend key now =>
      obtain rfl := Option.some.inj hid
      obtain ⟨q, hq, rfl⟩ : ∃ q, s.packs.get? key = some q ∧ { q with lastSeen := now } = p := by
        simpa using hp
      exact ⟨hkeyed key q hq, rfl⟩
  | dismiss _ | put _ | discard _ => cases hid

theorem get?_of_not_attends (hkeyed : s.packs.Keyed) (hid : errand.attends? ≠ some id) :
    (s.run errand).packs.get? id =
      if errand.dismisses? = some id then none else s.packs.get? id := by
  rw [get?_run hkeyed]
  cases errand with
  | register pack now => exact if_neg fun heq => hid (congrArg some heq.symm)
  | attend key now => exact if_neg fun heq => hid (congrArg some heq.symm)
  | dismiss key => simp [Errand.dismisses?, eq_comm]
  | put _ | discard _ => rfl

/-- Who shows that it is there is stored from then on if it was before, or if it is registered. -/
theorem stored_of_attends (hkeyed : s.packs.Keyed) (hid : errand.attends? = some id) :
    (∃ p, (s.run errand).packs.get? id = some p) ↔
      (∃ pack now, errand = .register pack now) ∨ ∃ p, s.packs.get? id = some p := by
  rw [get?_run hkeyed]
  cases errand with
  | register pack now =>
      obtain rfl := Option.some.inj hid
      exact iff_of_true ⟨_, if_pos rfl⟩ (.inl ⟨pack, now, rfl⟩)
  | attend key now =>
      obtain rfl := Option.some.inj hid
      cases s.packs.get? key <;> simp
  | dismiss _ | put _ | discard _ => cases hid

end Stock

namespace Api

open Http (Request Response)

/-- An errand is done at the moment at which its request is read. -/
theorem Wants.moment_eq {now moment : Timestamp} {r : Request} {resource : Resource}
    {method : String} {errand : Errand} (h : Wants now r resource method errand)
    (hmoment : errand.moment? = some moment) : moment = now := by
  cases h with
  | register _ _ | publish _ _ | complete _ _ _ | take _ _ | put _ _ _ =>
      exact (Option.some.inj hmoment).symm
  | dismiss _ | discard _ => cases hmoment

theorem moment_of_errand? {now moment : Timestamp} {r : Request} {errand : Errand}
    (h : errand? now r = some errand) (hmoment : errand.moment? = some moment) : moment = now := by
  obtain ⟨sent, resource, -, -, hwants⟩ := wants_of_errand? h
  exact hwants.moment_eq hmoment

/-! ## Visits -/

/-- The pack that has shown that it is there: it was registered, has asked for an action, or has
sent an event or a result, each with a request that can be read. -/
def Visit.attends? (v : Visit) : Option String :=
  (errand? v.moment v.request).bind Errand.attends?

def Visit.dismisses? (v : Visit) : Option String :=
  (errand? v.moment v.request).bind Errand.dismisses?

/-- When a pack has shown that it is there for the last time. -/
def lastAttended? (visits : List Visit) (id : String) : Option Timestamp :=
  (visits.reverse.find? fun v => v.attends? = some id).map Visit.moment

theorem lastAttended?_snoc (visits : List Visit) (v : Visit) (id : String) :
    lastAttended? (visits ++ [v]) id =
      if v.attends? = some id then some v.moment else lastAttended? visits id := by
  by_cases hv : v.attends? = some id <;> simp [lastAttended?, hv]

/-- Every pack was last seen when it has shown for the last time that it is there. -/
def Attested (visits : List Visit) (packs : PackStore) : Prop :=
  ∀ id p, packs.get? id = some p → p.id = id ∧ lastAttended? visits id = some p.lastSeen

theorem Attested.keyed {visits : List Visit} {packs : PackStore} (h : Attested visits packs) :
    packs.Keyed :=
  fun id p hp => (h id p hp).1

section

variable {shared : Bool} {visits : List Visit} {s : Hub} {id : String}

theorem packs_serve (shared : Bool) (s : Hub) (r : Request) :
    (serve shared s r).2.packs = (s.stock.after (errand? s.reading r)).packs :=
  congrArg Stock.packs (stock_serve shared s r)

/-- A request with which a pack shows that it is there, whatever it is answered. -/
theorem attending_serve (hkeyed : s.packs.Keyed) (shared : Bool) {r : Request}
    (hid : Visit.attends? ⟨s.reading, r⟩ = some id) :
    ((serve shared s r).2.packs.contains id = true ↔
      (∃ pack, errand? s.reading r = some (.register pack s.reading)) ∨
        s.packs.contains id = true) ∧
    ∀ p, (serve shared s r).2.packs.get? id = some p → p.id = id ∧ p.lastSeen = s.reading := by
  obtain ⟨errand, herrand, hid⟩ := Option.bind_eq_some_iff.1 hid
  replace herrand : errand? s.reading r = some errand := herrand
  rw [packs_serve, herrand, Dict.contains_iff, Dict.contains_iff]
  refine ⟨(Stock.stored_of_attends hkeyed hid).trans (or_congr_left ⟨?_, ?_⟩), fun p hp => ?_⟩
  · rintro ⟨pack, now, rfl⟩
    obtain rfl := moment_of_errand? herrand (rfl : (Errand.register pack now).moment? = some now)
    exact ⟨pack, rfl⟩
  · rintro ⟨pack, hpack⟩
    exact ⟨pack, s.reading, Option.some.inj hpack⟩
  · obtain ⟨hown, hmoment⟩ := Stock.lastSeen_of_attends hkeyed hid hp
    exact ⟨hown, moment_of_errand? herrand hmoment⟩

/-- Any other request leaves the pack as it is, unless it removes it. -/
theorem other_serve (hkeyed : s.packs.Keyed) (shared : Bool) {r : Request}
    (hid : Visit.attends? ⟨s.reading, r⟩ ≠ some id) :
    (serve shared s r).2.packs.get? id =
      if Visit.dismisses? ⟨s.reading, r⟩ = some id then none else s.packs.get? id := by
  rw [packs_serve]
  unfold Visit.attends? Visit.dismisses? at *
  cases herrand : errand? s.reading r with
  | none => rfl
  | some errand =>
      rw [herrand, Option.bind_some] at hid
      exact Stock.get?_of_not_attends hkeyed hid

theorem attested_request (h : Attested visits s.packs) (r : Request) :
    Attested (visits ++ [⟨s.reading, r⟩]) (serve shared s r).2.packs := by
  intro id p hp
  rw [lastAttended?_snoc]
  by_cases hid : Visit.attends? ⟨s.reading, r⟩ = some id
  · obtain ⟨hown, hmoment⟩ := (attending_serve h.keyed shared hid).2 p hp
    rw [if_pos hid, hmoment]
    exact ⟨hown, rfl⟩
  · rw [if_neg hid]
    have hother := (other_serve h.keyed shared hid).symm.trans hp
    exact h id p (Option.ite_none_left_eq_some.1 hother).2

theorem attested_served (h : Served shared visits s) : Attested visits s.packs := by
  induction h with
  | start mode supply => exact nofun
  | request h r ih => exact attested_request ih r
  | @chore visits s s' h hchore ih =>
      cases hchore with
      | sweep now grace =>
          unfold Hub.sweep
          split
          · next swept => exact fun id p hp => ih id p (PackStore.get?_of_sweepDead? swept hp)
          · exact ih
      | other hstock =>
          have hpacks : s'.packs = s.packs := congrArg Stock.packs hstock
          rw [hpacks]
          exact ih

/-- A pack is answered that it is registered just if the request wants to register one. -/
theorem registered_iff {r : Request} (h : Asks r .packs) (shared : Bool) (s : Hub) :
    (serve shared s r).1.status = 201 ↔
      ∃ pack, errand? s.reading r = some (.register pack s.reading) := by
  have hpost : r.method = "POST" := h.method
  obtain ⟨sent, hsent, hresource⟩ := h.path
  have hrun : (route r).run s = (registerPack r).run s := run_route h rfl s
  rw [serve_eq_outgoing (by simp [hpost]) (by simp [hpost]), hrun, errand?_of_path hsent hresource,
    hpost]
  have hrefused {e : Failure} (he : 400 ≤ e.status) :
      (outgoing shared (.error (refusal e))).status ≠ 201 := by
    rw [outgoing_error_status]
    change e.status ≠ 201
    omega
  rw [run_registerPack]
  simp only [errandAt]
  cases hread : r.payload PackRegistration.read with
  | error e =>
      refine iff_of_false (hrefused (refused_of_payload hread)) ?_
      rintro ⟨pack, ⟨⟩⟩
  | ok registration =>
  simp only [Except.bind, Hub.reading]
  cases hpack : registration.toPack (s.supply s.used).time with
  | error e =>
      refine iff_of_false (hrefused (refused_of_toPack hpack)) ?_
      rintro ⟨pack, ⟨⟩⟩
  | ok pack => exact iff_of_true (outgoing_ok_status shared _) ⟨pack, rfl⟩

/-- How the packs of a hub stand to the requests that it has been sent, and what comes of one more
request and of a sweep. -/
structure Tracks (shared : Bool) (visits : List Visit) (s : Hub) : Prop where
  seen : ∀ id p, s.packs.get? id = some p → lastAttended? visits id = some p.lastSeen
  registers : ∀ r, Asks r .packs → ((serve shared s r).1.status = 201 ↔
    ∃ pack, errand? s.reading r = some (.register pack s.reading))
  attending : ∀ r id, Visit.attends? ⟨s.reading, r⟩ = some id →
    ((serve shared s r).2.packs.contains id = true ↔
      (∃ pack, errand? s.reading r = some (.register pack s.reading)) ∨
        s.packs.contains id = true) ∧
    ∀ p, (serve shared s r).2.packs.get? id = some p → p.lastSeen = s.reading
  /-- Any other request leaves the pack as it is, unless it removes it. -/
  other : ∀ r id, Visit.attends? ⟨s.reading, r⟩ ≠ some id →
    (serve shared s r).2.packs.get? id =
      if Visit.dismisses? ⟨s.reading, r⟩ = some id then none else s.packs.get? id
  swept : ∀ now grace limit, now.addSeconds? (-grace) = some limit →
    ∃ gone packs, s.packs.sweepDead? now grace = some (gone, packs) ∧
      (∀ id, id ∈ gone ↔ s.packs.contains id = true ∧
        ∃ moment, lastAttended? visits id = some moment ∧ moment < limit) ∧
      ∀ id, packs.get? id = if id ∈ gone then none else s.packs.get? id

theorem served_tracks (h : Served shared visits s) : Tracks shared visits s := by
  have hattested : Attested visits s.packs := attested_served h
  refine ⟨fun id p hp => (hattested id p hp).2, fun r hr => registered_iff hr shared s, ?_, ?_, ?_⟩
  · intro r id hid
    obtain ⟨hstored, hseen⟩ := attending_serve hattested.keyed shared hid
    exact ⟨hstored, fun p hp => (hseen p hp).2⟩
  · exact fun r id hid => other_serve hattested.keyed shared hid
  · intro now grace limit hlimit
    have hswept : s.packs.sweepDead? now grace = some (s.packs.removeSeenBefore limit) := by
      rw [PackStore.sweepDead?, hlimit]
      rfl
    refine ⟨_, _, hswept, fun id => ?_, PackStore.get?_removeSeenBefore_of_mem s.packs limit⟩
    refine PackStore.mem_removeSeenBefore.trans ⟨?_, ?_⟩
    · rintro ⟨p, hp, hold⟩
      exact ⟨Dict.contains_iff.2 ⟨p, hp⟩, p.lastSeen, (hattested id p hp).2, hold⟩
    · rintro ⟨hstored, moment, hmoment, hold⟩
      obtain ⟨p, hp⟩ := Dict.contains_iff.1 hstored
      obtain rfl := Option.some.inj ((hattested id p hp).2.symm.trans hmoment)
      exact ⟨p, hp, hold⟩

end

/-! ## A pack that says nothing -/

/-- A clock that shows one second more with each reading. -/
def seconds (n : Nat) : Stamp := ⟨default, ⟨n + 1, 0⟩⟩

def opened : Hub := .empty .any seconds

def kitchenId : String := Pack.deriveId "kitchen" ∅

def registration : Request where
  method := "POST"
  path := "/v1/packs"
  query := none
  contentType := none
  body := "\x7b\"name\":\"kitchen\"\x7d".toUTF8

/-- An event without a name. -/
def silence : Request where
  method := "POST"
  path := "/v1/packs/" ++ kitchenId ++ "/events"
  query := none
  contentType := none
  body := "\x7b\"event\":\" \"\x7d".toUTF8

/-- The event is refused, and yet it is what the kitchen is remembered for. -/
theorem silence_attends :
    (serve true (serve true opened registration).2 silence).1.status = 400 ∧
      ∃ s, Served true [⟨⟨1, 0⟩, registration⟩, ⟨⟨2, 0⟩, silence⟩] s ∧
        lastAttended? [⟨⟨1, 0⟩, registration⟩, ⟨⟨2, 0⟩, silence⟩] kitchenId = some ⟨2, 0⟩ ∧
        (s.packs.get? kitchenId).map Pack.lastSeen = some ⟨2, 0⟩ ∧
        ∃ gone packs, s.packs.sweepDead? ⟨100, 0⟩ 97 = some (gone, packs) ∧ kitchenId ∈ gone := by
  -- One evaluation for all, since each digests the name of the pack anew.
  obtain ⟨hreading, hstatus, hlast⟩ : (serve true opened registration).2.reading = ⟨2, 0⟩ ∧
      (serve true (serve true opened registration).2 silence).1.status = 400 ∧
      ((serve true (serve true opened registration).2 silence).2.packs.get? kitchenId).map
        Pack.lastSeen = some ⟨2, 0⟩ := by
    decide +kernel
  have hopened : Served true [] opened := .start .any seconds
  have hserved := (hopened.request registration).request silence
  rw [hreading] at hserved
  obtain ⟨hseen, -, -, -, hswept⟩ := served_tracks hserved
  obtain ⟨p, hp, hmoment⟩ := Option.map_eq_some_iff.1 hlast
  have hattended := hseen kitchenId p hp
  rw [hmoment] at hattended
  obtain ⟨gone, packs, hsweep, hgone, -⟩ := hswept ⟨100, 0⟩ 97 ⟨3, 0⟩ (by decide +kernel)
  refine ⟨hstatus, _, hserved, hattended, hlast, gone, packs, hsweep, (hgone kitchenId).2 ?_⟩
  exact ⟨Dict.contains_iff.2 ⟨p, hp⟩, ⟨2, 0⟩, hattended, by decide⟩

end Api

end Orchestrator
