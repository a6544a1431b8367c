import Orchestrator.Proofs.Broker.Race

/-!
Two packs of one name of which the second has every label of the first. Whatever the first may take
the second may take too, in the same order. So the second gets an action whenever the first gets one,
and it never gets a later one.
-/

namespace Orchestrator

theorem Pack.serves_of_more_labels {p q : Pack} (hname : p.name = q.name)
    (hlabels : ∀ key value, p.labels.get? key = some value → q.labels.get? key = some value)
    {packName : String} {selector : Labels} (h : p.serves packName selector = true) :
    q.serves packName selector = true := by
  rw [serves, Bool.and_eq_true, Labels.fits_iff] at h ⊢
  exact ⟨hname ▸ h.1, fun key value hasked => hlabels key value (h.2 key value hasked)⟩

namespace ActionStore

theorem id_eq_of_precedes {a b : Action} (hab : precedes a b = true) (hba : precedes b a = true) :
    a.id = b.id := by
  rw [precedes_iff, Timestamp.lt_iff, Timestamp.eq_iff] at hab hba
  rcases hab with hab | ⟨htab, hidab⟩ <;> rcases hba with hba | ⟨htba, hidba⟩
  · omega
  · omega
  · omega
  · exact String.le_antisymm hidab hidba

/-- The queue does not depend on the order in which the actions of the store are listed. -/
theorem Keyed.findNew_of_perm {s : ActionStore} (hs : s.Keyed) {listing : List Action}
    (hlisting : listing.Perm s.values) (packName : String) (name : Option String) :
    (listing.filter (isWaiting packName name)).mergeSort precedes = s.findNew packName name := by
  have hsorted (actions : List Action) :
      (actions.mergeSort precedes).Pairwise fun a b => precedes a b = true :=
    List.pairwise_mergeSort (fun a b c => precedes_trans (a := a) (b := b) (c := c))
      precedes_total actions
  have hperm : ((listing.filter (isWaiting packName name)).mergeSort precedes).Perm
      (s.findNew packName name) :=
    (List.mergeSort_perm _ _).trans ((hlisting.filter _).trans (List.mergeSort_perm _ _).symm)
  refine hperm.eq_of_pairwise (fun a b ha hb hab hba => ?_) (hsorted _) (hsorted _)
  -- Neither comes after the other, so they have one identifier, under which one action is stored.
  have hid : a.id = b.id := id_eq_of_precedes hab hba
  have hstored (c : Action) (hc : c ∈ s.findNew packName name) : s.get? c.id = some c :=
    hs.get? (mem_findNew.1 hc).1
  exact Option.some.inj ((hstored a (hperm.mem_iff.1 ha)).symm.trans (hid ▸ hstored b hb))

end ActionStore

namespace Broker

section

variable {s : ActionStore} {p q : Pack}

theorem candidates_of_more_labels (hname : p.name = q.name)
    (hlabels : ∀ key value, p.labels.get? key = some value → q.labels.get? key = some value)
    (name : Option String) : (candidates s p name).Sublist (candidates s q name) := by
  rw [candidates, candidates, hname]
  exact List.monotone_filter_right _ fun a => Pack.serves_of_more_labels hname hlabels

/-- A call that gets an action gets the first of the candidates, as it is stored. -/
theorem take_eq_ok_some (hs : s.Keyed) {name : Option String} {now : Timestamp} {taken : Action}
    {s' : ActionStore} :
    take s p name now = .ok (some taken, s') ↔
      ∃ a rest, candidates s p name = a :: rest ∧
        taken = a.entered ⟨.pending, now⟩ a.history a.result ∧ s' = s.insert a.id taken := by
  rw [take_eq hs]
  cases candidates s p name with
  | nil => simp
  | cons a rest =>
      simp only [Except.ok.injEq, Prod.mk.injEq, Option.some.injEq, List.cons.injEq]
      constructor
      · rintro ⟨rfl, rfl⟩
        exact ⟨a, rest, ⟨rfl, rfl⟩, rfl, rfl⟩
      · rintro ⟨a, rest, ⟨rfl, rfl⟩, rfl, rfl⟩
        exact ⟨rfl, rfl⟩

/-- With more labels a pack has at least the candidates that it had, in the same order. Whenever it
would have got an action it gets one, and none that is later in the queue. -/
theorem take_with_more_labels (hs : s.Keyed) (hname : p.name = q.name)
    (hlabels : ∀ key value, p.labels.get? key = some value → q.labels.get? key = some value)
    (name : Option String) :
    (candidates s p name).Sublist (candidates s q name) ∧
    (∀ now now' taken s', take s p name now = .ok (some taken, s') →
      ∃ taken' s'', take s q name now' = .ok (some taken', s'') ∧
        ∃ a b, s.get? taken.id = some a ∧ s.get? taken'.id = some b ∧
          (b = a ∨ ActionStore.Earlier b a)) ∧
    ∀ listing : List Action, listing.Perm s.values →
      ((listing.filter (ActionStore.isWaiting p.name name)).mergeSort
        ActionStore.precedes).filter (fun a => p.serves a.packName a.packLabels) =
          candidates s p name := by
  have hsub : (candidates s p name).Sublist (candidates s q name) :=
    candidates_of_more_labels hname hlabels name
  refine ⟨hsub, fun now now' taken s' htake => ?_, fun listing hlisting => ?_⟩
  · obtain ⟨a, rest, hqueue, rfl, rfl⟩ := (take_eq_ok_some hs).1 htake
    have ha : a ∈ candidates s q name := hsub.subset (hqueue ▸ List.mem_cons_self)
    obtain ⟨b, more, hmore⟩ := List.exists_cons_of_ne_nil (List.ne_nil_of_mem ha)
    have hb : b ∈ candidates s q name := hmore ▸ List.mem_cons_self
    refine ⟨_, _, (take_eq_ok_some hs).2 ⟨b, more, hmore, rfl, rfl⟩, a, b,
      ((mem_candidates hs).1 ha).1, ((mem_candidates hs).1 hb).1, ?_⟩
    have hordered : (b :: more).Pairwise ActionStore.Earlier :=
      hmore ▸ (hs.findNew_pairwise q.name name).filter _
    rcases List.mem_cons.1 (hmore ▸ ha) with hsame | hlater
    · exact .inl hsame.symm
    · exact .inr ((List.pairwise_cons.1 hordered).1 a hlater)
  · rw [hs.findNew_of_perm hlisting]
    rfl

end

/-- The chore that asks for a steam oven is the first in the queue. -/
def steamChores : ActionStore :=
  endure ∅ [.add { chore "1" with packLabels := .insert ∅ "oven" "steam" }, .add (chore "2")]

def steamCook : Pack := { cook with labels := .insert ∅ "oven" "steam" }

theorem steamCook_not_later :
    steamChores.Keyed ∧ cook.name = steamCook.name ∧
    (∀ key value, cook.labels.get? key = some value → steamCook.labels.get? key = some value) ∧
    ∃ taken s', take steamChores cook none default = .ok (some taken, s') ∧ taken.id = "2" ∧
      ∃ taken' s'', take steamChores steamCook none default = .ok (some taken', s'') ∧
        ∃ b, steamChores.get? taken'.id = some b ∧
          (b = chore "2" ∨ ActionStore.Earlier b (chore "2")) := by
  have hkeyed : steamChores.Keyed := keyed_endure ActionStore.keyed_empty _
  have hlabels : ∀ key value, cook.labels.get? key = some value →
      steamCook.labels.get? key = some value := by
    intro key value h
    cases h
  have hqueue : candidates steamChores cook none = [chore "2"] := by
    rw [candidates_of_ordered (by decide +kernel)]
    decide +kernel
  have htake : take steamChores cook none default = .ok (some _, _) :=
    (take_eq_ok_some hkeyed).2 ⟨chore "2", [], hqueue, rfl, rfl⟩
  obtain ⟨taken', s'', htake', a, b, ha, hb, hearlier⟩ :=
    (take_with_more_labels (p := cook) (q := steamCook) hkeyed rfl hlabels none).2.1 default default
      _ _ htake
  have hsame : a = chore "2" := Option.some.inj (ha.symm.trans (by decide +kernel))
  exact ⟨hkeyed, rfl, hlabels, _, _, htake, rfl, taken', s'', htake', b, hb, hsame ▸ hearlier⟩

end Broker

end Orchestrator
