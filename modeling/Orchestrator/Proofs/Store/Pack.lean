import Mathlib.Data.List.Induction
import Orchestrator.Proofs.Identity
import Orchestrator.Store.Pack

/-!
The registry of packs over any sequence of calls. Whoever registers a pack may send any identifier
with it, and packs are seen, removed and swept in any order; still an identifier never stands for
two packs, and what is stored of a pack is what it has sent last.
-/

namespace Orchestrator

namespace PackStore

theorem get?_register (s : PackStore) (p : Pack) (now : Timestamp) (id : String) :
    (s.register p now).2.get? id =
      if id = Pack.deriveId p.name p.labels then some { p.refreshId with lastSeen := now }
      else s.get? id :=
  Dict.get?_insert s _ id _

theorem get?_of_remove {s s' : PackStore} {key : String} (h : s.remove key = .ok s') (id : String) :
    s'.get? id = if id = key then none else s.get? id := by
  unfold remove at h
  split at h
  · obtain rfl := Except.ok.inj h
    exact Dict.get?_erase s key id
  · cases h

theorem get?_touch (s : PackStore) (key : String) (moment : Timestamp) (id : String) :
    (s.touch key moment).2.get? id =
      if id = key then (s.get? id).map fun p => { p with lastSeen := moment } else s.get? id := by
  unfold touch
  cases hpack : s.get? key with
  | none =>
      by_cases hid : id = key
      · simp [hid, hpack]
      · simp [hid]
  | some p =>
      simp only [Dict.get?_insert]
      by_cases hid : id = key
      · simp [hid, hpack]
      · simp [hid]

theorem get?_removeSeenBefore (s : PackStore) (limit : Timestamp) (id : String) :
    (s.removeSeenBefore limit).2.get? id =
      (s.get? id).filter fun p => !decide (p.lastSeen < limit) :=
  Dict.get?_filter s _ id

theorem mem_removeSeenBefore {s : PackStore} {limit : Timestamp} {id : String} :
    id ∈ (s.removeSeenBefore limit).1 ↔ ∃ p, s.get? id = some p ∧ p.lastSeen < limit := by
  simp only [removeSeenBefore, Dict.mem_keys, Dict.get?_filter, Option.filter_eq_some_iff,
    decide_eq_true_eq]

/-- What is not named as removed stays as it was. -/
theorem get?_removeSeenBefore_of_mem (s : PackStore) (limit : Timestamp) (id : String) :
    (s.removeSeenBefore limit).2.get? id =
      if id ∈ (s.removeSeenBefore limit).1 then none else s.get? id := by
  rw [get?_removeSeenBefore]
  cases hp : s.get? id with
  | none => exact (ite_self _).symm
  | some p =>
      have hmem : id ∈ (s.removeSeenBefore limit).1 ↔ p.lastSeen < limit := by
        rw [mem_removeSeenBefore, hp]
        simp
      by_cases hold : p.lastSeen < limit <;> simp [hmem, hold]

theorem get?_of_get?_removeSeenBefore {s : PackStore} {limit : Timestamp} {id : String} {p : Pack}
    (h : (s.removeSeenBefore limit).2.get? id = some p) : s.get? id = some p := by
  rw [get?_removeSeenBefore] at h
  exact (Option.filter_eq_some_iff.1 h).1

theorem get?_of_sweepDead? {s : PackStore} {now : Timestamp} {grace : Int}
    {swept : List String × PackStore} (hswept : s.sweepDead? now grace = some swept) {id : String}
    {p : Pack} (h : swept.2.get? id = some p) : s.get? id = some p := by
  obtain ⟨limit, -, rfl⟩ := Option.map_eq_some_iff.1 hswept
  exact get?_of_get?_removeSeenBefore h

/-- A call that changes the registry. -/
inductive Call where
  /-- The pack may have any identifier. -/
  | register (pack : Pack) (now : Timestamp)
  | remove (id : String)
  | seen (id : String) (now : Timestamp)
  | sweep (now : Timestamp) (grace : Int)
  /-- Removes the packs last seen before a moment, however many seconds, or parts of one, it lies
  back. -/
  | removeSeenBefore (limit : Timestamp)

namespace Call

/-- A call that is refused changes nothing. -/
def apply (s : PackStore) : Call → PackStore
  | register pack now => (s.register pack now).2
  | remove id => (s.remove id).toOption.getD s
  | seen id now => (s.touch id now).2
  | sweep now grace => ((s.sweepDead? now grace).map Prod.snd).getD s
  | removeSeenBefore limit => (s.removeSeenBefore limit).2

def registered? : Call → Option Pack
  | register pack _ => some pack
  | _ => none

end Call

/-- The registry after some calls. -/
def through (calls : List Call) : PackStore := calls.foldl Call.apply ∅

theorem through_snoc (calls : List Call) (call : Call) :
    through (calls ++ [call]) = call.apply (through calls) := by
  simp [through]

/-- The packs that were registered, in this order. -/
def registered (calls : List Call) : List Pack := calls.filterMap Call.registered?

/-- The last registration of the pack with a name and labels. -/
def latest? (calls : List Call) (name : String) (labels : Labels) : Option Pack :=
  (registered calls).reverse.find? fun p => p.name = name ∧ p.labels = labels

/-! ## One call -/

/-- A pack that is stored after a call has been registered by it, or was stored before and may have
been seen since. -/
theorem get?_apply {s : PackStore} {call : Call} {id : String} {p : Pack}
    (h : (call.apply s).get? id = some p) :
    (∃ sent now, call = .register sent now ∧ id = Pack.deriveId sent.name sent.labels ∧
      p = { sent.refreshId with lastSeen := now }) ∨
    ((∀ sent, call.registered? = some sent → id ≠ Pack.deriveId sent.name sent.labels) ∧
      ∃ q, s.get? id = some q ∧ p = { q with lastSeen := p.lastSeen }) := by
  have hkept (hq : s.get? id = some p) :
      ∃ q, s.get? id = some q ∧ p = { q with lastSeen := p.lastSeen } := ⟨p, hq, rfl⟩
  cases call with
  | register sent now =>
      simp only [Call.apply, get?_register] at h
      split at h
      · next hid => exact .inl ⟨sent, now, rfl, hid, (Option.some.inj h).symm⟩
      · next hid =>
        refine .inr ⟨?_, hkept h⟩
        rintro _ ⟨⟩
        exact hid
  | remove key =>
      refine .inr ⟨nofun, hkept ?_⟩
      simp only [Call.apply] at h
      cases hremove : s.remove key with
      | error e => simpa [hremove, Except.toOption] using h
      | ok s' =>
          have hfound : s'.get? id = some p := by simpa [hremove, Except.toOption] using h
          rw [get?_of_remove hremove] at hfound
          exact (Option.ite_none_left_eq_some.1 hfound).2
  | seen key now =>
      refine .inr ⟨nofun, ?_⟩
      simp only [Call.apply, get?_touch] at h
      split at h
      · obtain ⟨q, hq, rfl⟩ := Option.map_eq_some_iff.1 h
        exact ⟨q, hq, rfl⟩
      · exact ⟨p, h, rfl⟩
  | sweep now grace =>
      refine .inr ⟨nofun, hkept ?_⟩
      simp only [Call.apply] at h
      cases hswept : s.sweepDead? now grace with
      | none => simpa [hswept] using h
      | some swept => exact get?_of_sweepDead? hswept (by simpa [hswept] using h)
  | removeSeenBefore limit => exact .inr ⟨nofun, hkept (get?_of_get?_removeSeenBefore h)⟩

/-! ## Any sequence of calls -/

section

variable {calls : List Call} {id : String} {p : Pack}

/-- What is stored under an identifier is the last that was registered of all that come to it. -/
theorem get?_through (h : (through calls).get? id = some p) :
    ∃ sent, ((registered calls).reverse.find? fun q => Pack.deriveId q.name q.labels = id) =
      some sent ∧ p = { sent.refreshId with lastSeen := p.lastSeen } := by
  induction calls using List.reverseRecOn generalizing p with
  | nil => cases h
  | append_singleton calls call ih =>
      rw [through_snoc] at h
      have hregistered : registered (calls ++ [call]) =
          registered calls ++ call.registered?.toList := by
        cases hcall : call.registered? <;> simp [registered, hcall]
      rw [hregistered, List.reverse_append, List.find?_append]
      rcases get?_apply h with ⟨sent, now, rfl, hid, rfl⟩ | ⟨hother, q, hq, hsame⟩
      · exact ⟨sent, by simp [Call.registered?, hid], rfl⟩
      · obtain ⟨sent, hsent, hq⟩ := ih hq
        refine ⟨sent, ?_, ?_⟩
        · rw [hsent]
          cases hcall : call.registered? with
          | none => rfl
          | some other => simp [Ne.symm (hother other hcall)]
        · rw [hsame, hq]

theorem deriveId_of_stored (h : (through calls).get? id = some p) :
    p.id = id ∧ id = Pack.deriveId p.name p.labels := by
  obtain ⟨sent, hsent, hp⟩ := get?_through h
  have hid : Pack.deriveId sent.name sent.labels = id := by simpa using List.find?_some hsent
  rw [hp]
  exact ⟨hid, hid.symm⟩

/-- No registration of the same pack is later than the last one under its identifier. -/
theorem latest?_of_stored (h : (through calls).get? id = some p) :
    ∃ sent, latest? calls p.name p.labels = some sent ∧
      p = { sent.refreshId with lastSeen := p.lastSeen } := by
  obtain ⟨sent, hsent, hp⟩ := get?_through h
  refine ⟨sent, ?_, hp⟩
  obtain ⟨hid, later, earlier, hlist, hlater⟩ := List.find?_eq_some_iff_append.1 hsent
  refine List.find?_eq_some_iff_append.2 ⟨?_, later, earlier, hlist, fun q hq => ?_⟩
  · rw [hp]
    exact decide_eq_true ⟨rfl, rfl⟩
  · have hdiffer := hlater q hq
    rw [hp]
    simp only [Bool.not_eq_true', decide_eq_false_iff_not, decide_eq_true_eq] at hid hdiffer ⊢
    rintro ⟨hname, hlabels⟩
    apply hdiffer
    rw [hname, hlabels]
    exact hid

theorem registered_of_stored (h : (through calls).get? id = some p) :
    ∃ sent ∈ registered calls, sent.name = p.name ∧ sent.labels = p.labels := by
  obtain ⟨sent, hsent, hp⟩ := latest?_of_stored h
  refine ⟨sent, List.mem_reverse.1 (List.mem_of_find?_eq_some hsent), ?_⟩
  rw [hp]
  exact ⟨rfl, rfl⟩

end

/-- How a registry stands after some calls. -/
structure Orderly (calls : List Call) (s : PackStore) : Prop where
  /-- A pack is stored under its identifier, which is that of its name and labels. -/
  own : ∀ id p, s.get? id = some p → p.id = id ∧ id = Pack.deriveId p.name p.labels
  once : ∀ id id' p p', s.get? id = some p → s.get? id' = some p' → p.name = p'.name →
    p.labels = p'.labels → id = id' ∧ p = p'
  latest : ∀ id p, s.get? id = some p → ∃ sent, latest? calls p.name p.labels = some sent ∧
    p.commands = sent.commands ∧ p.events = sent.events

theorem orderly_through (calls : List Call) : Orderly calls (through calls) where
  own _ _ h := deriveId_of_stored h
  once := by
    intro id id' p p' h h' hname hlabels
    obtain rfl : id = id' := by
      rw [(deriveId_of_stored h).2, (deriveId_of_stored h').2, hname, hlabels]
    exact ⟨rfl, Option.some.inj (h.symm.trans h')⟩
  latest := by
    intro id p h
    obtain ⟨sent, hsent, hp⟩ := latest?_of_stored h
    refine ⟨sent, hsent, ?_⟩
    rw [hp]
    exact ⟨rfl, rfl⟩

/-- At every moment of a sequence of calls the registry is orderly, and who has just registered is
stored as it was sent, but under the identifier of its name and labels. As long as the digest tells
the registered packs apart, an identifier stands for one name and one set of labels at all moments. -/
theorem registry_keeps_identities (calls : List Call)
    (hshort : ∀ p ∈ registered calls, Pack.AllShort p.name p.labels)
    (hdigest : ∀ p ∈ registered calls, ∀ q ∈ registered calls,
      Sha256.TellsApart (Pack.identity p.name p.labels) (Pack.identity q.name q.labels)) :
    (∀ first rest, calls = first ++ rest → Orderly first (through first)) ∧
      (∀ first sent now rest, calls = first ++ .register sent now :: rest →
        (through (first ++ [.register sent now])).get? (Pack.deriveId sent.name sent.labels) =
          some { sent.refreshId with lastSeen := now }) ∧
      ∀ first rest first' rest' id p p', calls = first ++ rest → calls = first' ++ rest' →
        (through first).get? id = some p → (through first').get? id = some p' →
          p.name = p'.name ∧ p.labels = p'.labels := by
  refine ⟨fun first _ _ => orderly_through first, fun first sent now _ _ => ?_, ?_⟩
  · rw [through_snoc]
    exact (get?_register _ sent now _).trans (if_pos rfl)
  · intro first rest first' rest' id p p' hcalls hcalls' h h'
    have hmem : ∀ part other, calls = part ++ other →
        ∀ q ∈ registered part, q ∈ registered calls := by
      rintro part other rfl q hq
      rw [registered, List.filterMap_append]
      exact List.mem_append_left _ hq
    obtain ⟨sent, hsent, hname, hlabels⟩ := registered_of_stored h
    obtain ⟨sent', hsent', hname', hlabels'⟩ := registered_of_stored h'
    replace hsent := hmem first rest hcalls sent hsent
    replace hsent' := hmem first' rest' hcalls' sent' hsent'
    have hid : Pack.deriveId sent.name sent.labels = Pack.deriveId sent'.name sent'.labels := by
      rw [hname, hlabels, hname', hlabels', ← (deriveId_of_stored h).2, ← (deriveId_of_stored h').2]
    rw [← hname, ← hlabels, ← hname', ← hlabels']
    exact (Pack.deriveId_eq_iff (hshort _ hsent) (hshort _ hsent')
      (hdigest _ hsent _ hsent')).1 hid

/-! ## Two packs of one name -/

/-- A pack that comes with an identifier of its own choice. -/
def slack (env : String) (events : List String) : Pack :=
  { (default : Pack) with id := "mine", name := "Slack", labels := .ofList [("env", env)], events }

/-- Both packs are not seen for too long, and one of them is registered again. -/
def slackCalls : List Call :=
  [.register (slack "dev" ["Sent"]) ⟨1, 0⟩, .register (slack "prod" []) ⟨2, 0⟩, .seen "mine" ⟨3, 0⟩,
    .sweep ⟨10, 0⟩ 7, .register (slack "dev" ["Read"]) ⟨11, 0⟩]

theorem slack_registered_again :
    Orderly slackCalls (through slackCalls) ∧
      (through slackCalls).get? (slack "dev" []).refreshId.id =
        some { (slack "dev" ["Read"]).refreshId with lastSeen := ⟨11, 0⟩ } := by
  have hlist : registered slackCalls =
      [slack "dev" ["Sent"], slack "prod" [], slack "dev" ["Read"]] := rfl
  have hshort : ∀ p ∈ registered slackCalls, Pack.AllShort p.name p.labels := by
    intro p hp
    simp only [hlist, List.mem_cons, List.not_mem_nil, or_false] at hp
    rcases hp with rfl | rfl | rfl <;> exact Pack.allShort_ofList (by decide) (by decide)
  have hdiffer : Sha256.digest (Pack.identity "Slack" (.ofList [("env", "dev")])) ≠
      Sha256.digest (Pack.identity "Slack" (.ofList [("env", "prod")])) := by
    decide +kernel
  have hdigest : ∀ p ∈ registered slackCalls, ∀ q ∈ registered slackCalls,
      Sha256.TellsApart (Pack.identity p.name p.labels) (Pack.identity q.name q.labels) := by
    intro p hp q hq hsame
    simp only [hlist, List.mem_cons, List.not_mem_nil, or_false] at hp hq
    rcases hp with rfl | rfl | rfl <;> rcases hq with rfl | rfl | rfl
    · rfl
    · exact absurd hsame hdiffer
    · rfl
    · exact absurd hsame.symm hdiffer
    · rfl
    · exact absurd hsame.symm hdiffer
    · rfl
    · exact absurd hsame hdiffer
    · rfl
  obtain ⟨horderly, hregistered, -⟩ := registry_keeps_identities slackCalls hshort hdigest
  exact ⟨horderly slackCalls [] (List.append_nil _).symm,
    hregistered (slackCalls.take 4) (slack "dev" ["Read"]) ⟨11, 0⟩ [] rfl⟩

end PackStore

end Orchestrator
