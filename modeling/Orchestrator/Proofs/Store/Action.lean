import Mathlib.Data.List.Nodup
import Orchestrator.Proofs.Dict
import Orchestrator.Proofs.Time
import Orchestrator.Store.Action

/-!
What the operations of the action store do, each in one statement, and what its queries find. The
store keeps every action under its own identifier; from there on an action of the store and an
identifier of the store are the same thing. The queue that `findNew` gives is strictly ordered by
the time of the state and then by the identifier.
-/

namespace Orchestrator.ActionStore

/-- Every action is stored under its own identifier. -/
def Keyed (s : ActionStore) : Prop := ∀ id a, s.get? id = some a → a.id = id

theorem keyed_empty : Keyed ∅ := by
  intro id a h
  simp at h

theorem Keyed.insert {s : ActionStore} (hs : s.Keyed) (a : Action) : Keyed (s.insert a.id a) := by
  intro id b h
  rw [Dict.get?_insert] at h
  split at h
  · next hid =>
    simp only [Option.some.injEq] at h
    rw [← h, hid]
  · exact hs id b h

theorem Keyed.filter {s : ActionStore} (hs : s.Keyed) (p : String → Action → Bool) :
    Keyed (s.filter p) := by
  intro id b h
  rw [Dict.get?_filter, Option.filter_eq_some_iff] at h
  exact hs id b h.1

theorem Keyed.get? {s : ActionStore} (hs : s.Keyed) {a : Action} (ha : a ∈ s.values) :
    s.get? a.id = some a := by
  obtain ⟨id, hid⟩ := Dict.mem_values.1 ha
  rwa [hs id a hid]

theorem add_eq_ok {s s' : ActionStore} {a stored : Action} :
    s.add a = .ok (stored, s') ↔
      s.get? a.id = none ∧ stored = { a with previous := none } ∧ s' = s.insert a.id stored := by
  unfold add
  split
  · next h =>
    obtain ⟨b, hb⟩ := Dict.contains_iff.1 h
    simp [hb]
  · next h =>
    have hnone : s.get? a.id = none := Dict.contains_eq_false.1 (by simpa using h)
    simp only [Except.ok.injEq, Prod.mk.injEq, hnone, true_and]
    constructor
    · rintro ⟨rfl, rfl⟩
      exact ⟨rfl, rfl⟩
    · rintro ⟨rfl, rfl⟩
      exact ⟨rfl, rfl⟩

theorem update_eq_ok {s s' : ActionStore} {a accepted : Action} :
    s.update a = .ok (accepted, s') ↔
      ∃ b, s.get? a.id = some b ∧ a.previous = some b.state.value ∧
        accepted = { a with history := b.history ++ [a.state], previous := none } ∧
        s' = s.insert a.id accepted := by
  unfold update
  cases hget : s.get? a.id with
  | none => simp
  | some b =>
      by_cases hprev : a.previous = some b.state.value
      · simp only [hprev, if_true, Except.ok.injEq, Prod.mk.injEq, Option.some.injEq,
          exists_eq_left', true_and]
        constructor
        · rintro ⟨rfl, rfl⟩
          exact ⟨rfl, rfl⟩
        · rintro ⟨rfl, rfl⟩
          exact ⟨rfl, rfl⟩
      · simp [hprev]

/-- A move is refused because its action is not stored, or because the stored action is in another
state than the one that the move left. -/
theorem update_eq_error {s : ActionStore} {a : Action} {e : Error} :
    s.update a = .error e ↔
      (s.get? a.id = none ∧ e = .actionNotFound a.id) ∨
      ∃ b, s.get? a.id = some b ∧ a.previous ≠ some b.state.value ∧
        e = .illegalTransition a.id b.state.value a.state.value := by
  unfold update
  cases hget : s.get? a.id with
  | none => simp [eq_comm]
  | some b =>
      by_cases hprev : a.previous = some b.state.value
      · simp [hprev]
      · simp [hprev, eq_comm]

/-- The store takes in a new action whose identifier is not in use. -/
theorem add_of_unused {s : ActionStore} {a : Action} (hunused : s.get? a.id = none)
    (hprevious : a.previous = none) : s.add a = .ok (a, s.insert a.id a) := by
  have hsame : { a with previous := none } = a := by
    rw [← hprevious]
  exact add_eq_ok.2 ⟨hunused, hsame.symm, rfl⟩

/-- The store has taken in some actions, each under an identifier that was not in use, and has kept
what it had. -/
structure Adds (before after : ActionStore) (created : List Action) : Prop where
  kept : ∀ id a, before.get? id = some a → after.get? id = some a
  stored : ∀ a ∈ created, before.get? a.id = none ∧ after.get? a.id = some a
  origin : ∀ id a, after.get? id = some a → before.get? id = some a ∨ (a ∈ created ∧ a.id = id)
  distinct : (created.map (·.id)).Nodup

namespace Adds

variable {before mid after : ActionStore} {created more : List Action}

theorem refl (s : ActionStore) : s.Adds s [] where
  kept := fun _ _ h => h
  stored := by simp
  origin := fun _ _ h => .inl h
  distinct := List.nodup_nil

theorem insert {a : Action} (hunused : before.get? a.id = none) :
    before.Adds (before.insert a.id a) [a] where
  kept := by
    intro id b hb
    have hne : id ≠ a.id := by
      rintro rfl
      simp [hunused] at hb
    rwa [Dict.get?_insert, if_neg hne]
  stored := by
    intro b hb
    obtain rfl := List.mem_singleton.1 hb
    exact ⟨hunused, Dict.get?_insert_self _ _ _⟩
  origin := by
    intro id b hb
    rw [Dict.get?_insert] at hb
    split at hb
    · next hid => exact .inr ⟨by simpa using hb.symm, by rw [hid, Option.some.inj hb]⟩
    · exact .inl hb
  distinct := List.nodup_singleton _

theorem append (h : before.Adds mid created) (h' : mid.Adds after more) :
    before.Adds after (created ++ more) where
  kept := fun id a ha => h'.kept id a (h.kept id a ha)
  stored := by
    intro a ha
    rcases List.mem_append.1 ha with hfirst | hsecond
    · exact ⟨(h.stored a hfirst).1, h'.kept _ _ (h.stored a hfirst).2⟩
    · refine ⟨?_, (h'.stored a hsecond).2⟩
      cases hbefore : before.get? a.id with
      | none => rfl
      | some b =>
          have hmid := h.kept _ _ hbefore
          rw [(h'.stored a hsecond).1] at hmid
          cases hmid
  origin := by
    intro id a ha
    rcases h'.origin id a ha with hmid | ⟨hsecond, hid⟩
    · rcases h.origin id a hmid with hbefore | ⟨hfirst, hid⟩
      · exact .inl hbefore
      · exact .inr ⟨List.mem_append_left _ hfirst, hid⟩
    · exact .inr ⟨List.mem_append_right _ hsecond, hid⟩
  distinct := by
    rw [List.map_append]
    refine List.nodup_append'.2 ⟨h.distinct, h'.distinct, ?_⟩
    intro id hfirst hsecond
    obtain ⟨a, ha, rfl⟩ := List.mem_map.1 hfirst
    obtain ⟨b, hb, hid⟩ := List.mem_map.1 hsecond
    have hunused := (h'.stored b hb).1
    rw [hid, (h.stored a ha).2] at hunused
    cases hunused

/-- The order in which the actions are told does not matter. -/
theorem regroup (h : before.Adds after created) (hmem : ∀ a, a ∈ more ↔ a ∈ created)
    (hdistinct : (more.map (·.id)).Nodup) : before.Adds after more where
  kept := h.kept
  stored := fun a ha => h.stored a ((hmem a).1 ha)
  origin := fun id a ha => (h.origin id a ha).imp_right fun hnew => ⟨(hmem a).2 hnew.1, hnew.2⟩
  distinct := hdistinct

end Adds

/-- Expiry keeps the actions whose state is not older than a limit. -/
theorem expire?_eq_some {s kept : ActionStore} {now : Timestamp} {age : Int} {n : Nat}
    (h : s.expire? now age = some (n, kept)) :
    ∃ limit : Timestamp, kept = s.filter fun _ a => limit ≤ a.state.time := by
  unfold expire? at h
  cases hlimit : now.addSeconds? (-age) with
  | none => simp [hlimit] at h
  | some limit =>
      simp only [hlimit, Option.pure_def, Option.bind_eq_bind, Option.bind_some,
        Option.some.injEq, Prod.mk.injEq] at h
      exact ⟨limit, h.2.symm⟩

theorem isWaiting_iff {packName : String} {name : Option String} {a : Action} :
    isWaiting packName name a = true ↔
      a.state.value = .new ∧ a.packName = packName ∧ ∀ n, name = some n → a.name = n := by
  cases name <;> simp [isWaiting, and_assoc]

theorem mem_findNew {s : ActionStore} {packName : String} {name : Option String} {a : Action} :
    a ∈ s.findNew packName name ↔ a ∈ s.values ∧ isWaiting packName name a = true := by
  simp [findNew]

theorem mem_findCorrelated {s : ActionStore} {correlationId : String} {a : Action} :
    a ∈ s.findCorrelated correlationId ↔ a ∈ s.values ∧ a.correlationId = correlationId := by
  simp [findCorrelated]

/-- The strict order of the queue: the older state comes first, of two equally old ones the smaller
identifier. -/
def Earlier (a b : Action) : Prop :=
  a.state.time < b.state.time ∨ (a.state.time = b.state.time ∧ a.id < b.id)

/-- `precedes` is the order of the queue together with equality of identifiers. -/
theorem precedes_iff {a b : Action} :
    precedes a b = true ↔
      a.state.time < b.state.time ∨ (a.state.time = b.state.time ∧ a.id ≤ b.id) := by
  unfold precedes
  rw [← Timestamp.order_eq_lt, ← Timestamp.order_eq_eq]
  cases a.state.time.order b.state.time <;> simp

theorem precedes_trans {a b c : Action} (hab : precedes a b = true) (hbc : precedes b c = true) :
    precedes a c = true := by
  rw [precedes_iff, Timestamp.lt_iff, Timestamp.eq_iff] at *
  rcases hab with hab | ⟨htab, hidab⟩ <;> rcases hbc with hbc | ⟨htbc, hidbc⟩
  · exact .inl (by omega)
  · exact .inl (by omega)
  · exact .inl (by omega)
  · exact .inr ⟨by omega, String.le_trans hidab hidbc⟩

theorem precedes_total (a b : Action) : (precedes a b || precedes b a) = true := by
  rw [Bool.or_eq_true, precedes_iff, precedes_iff, Timestamp.lt_iff, Timestamp.lt_iff,
    Timestamp.eq_iff, Timestamp.eq_iff]
  rcases String.le_total a.id b.id with h | h
  · simp only [h, and_true]
    omega
  · simp only [h, and_true]
    omega

theorem earlier_of_precedes {a b : Action} (h : precedes a b = true) (hne : a.id ≠ b.id) :
    Earlier a b := by
  rcases precedes_iff.1 h with hlt | ⟨heq, hle⟩
  · exact .inl hlt
  · refine .inr ⟨heq, ?_⟩
    by_cases hlt : a.id < b.id
    · exact hlt
    · exact absurd (String.le_antisymm hle (String.not_lt.1 hlt)) hne

theorem Keyed.values_pairwise {s : ActionStore} (hs : s.Keyed) :
    s.values.Pairwise fun a b => a.id ≠ b.id := by
  rw [Dict.values, List.pairwise_map]
  refine List.Pairwise.imp_of_mem ?_ s.sorted
  intro x y hx hy hlt heq
  have hxid : x.2.id = x.1 := hs x.1 x.2 (Dict.mem_entries.1 hx)
  have hyid : y.2.id = y.1 := hs y.1 y.2 (Dict.mem_entries.1 hy)
  rw [← hxid, ← hyid, heq] at hlt
  exact String.lt_irrefl _ hlt

theorem Keyed.findNew_pairwise {s : ActionStore} (hs : s.Keyed) (packName : String)
    (name : Option String) : (s.findNew packName name).Pairwise Earlier := by
  have hsorted : (s.findNew packName name).Pairwise fun a b => precedes a b = true :=
    List.pairwise_mergeSort (fun a b c => precedes_trans (a := a) (b := b) (c := c))
      precedes_total _
  have hdistinct : (s.findNew packName name).Pairwise fun a b => a.id ≠ b.id :=
    (List.mergeSort_perm _ _).pairwise_iff (fun h => h.symm) |>.2 (hs.values_pairwise.filter _)
  exact hsorted.imp₂ (fun _ _ => earlier_of_precedes) hdistinct

end Orchestrator.ActionStore
