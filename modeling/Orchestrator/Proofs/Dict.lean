import Mathlib.Data.List.Nodup
import Orchestrator.Labels

/-!
Laws of dictionaries: what is found under a key after each operation, and that a dictionary is
determined by what is found in it. With them no proof needs to look at lists of entries, nor to know
how a selector is compared with labels.
-/

namespace Orchestrator

namespace Entries

variable {α : Type u}

theorem find?_insert (key k : String) (value : α) (entries : List (String × α)) :
    find? k (insert key value entries) = if k = key then some value else find? k entries := by
  induction entries with
  | nil => simp [insert, find?]
  | cons head rest ih =>
      obtain ⟨other, previous⟩ := head
      by_cases hlt : key < other
      · simp [insert, hlt, find?]
      · by_cases heq : key = other
        · subst heq
          by_cases hk : k = key <;> simp [insert, find?, hk]
        · by_cases hk : k = other
          · have hne : k ≠ key := fun h => heq (h.symm.trans hk)
            simp [insert, hlt, heq, find?, hk, Ne.symm heq]
          · simp [insert, hlt, heq, find?, hk, ih]

theorem mem_of_find? {key : String} {value : α} {entries : List (String × α)}
    (h : find? key entries = some value) : (key, value) ∈ entries := by
  induction entries with
  | nil => simp [find?] at h
  | cons head rest ih =>
      obtain ⟨other, previous⟩ := head
      by_cases heq : key = other
      · simp only [find?, heq, if_true, Option.some.injEq] at h
        simp [heq, h]
      · simp only [find?, heq, if_false] at h
        exact List.mem_cons_of_mem _ (ih h)

/-- In a sorted list an entry is the one that is found under its key. -/
theorem find?_of_mem {key : String} {value : α} {entries : List (String × α)}
    (hsorted : Sorted entries) (h : (key, value) ∈ entries) : find? key entries = some value := by
  induction entries with
  | nil => simp at h
  | cons head rest ih =>
      obtain ⟨other, previous⟩ := head
      obtain ⟨hhead, htail⟩ := List.pairwise_cons.1 hsorted
      rcases List.mem_cons.1 h with heq | hrest
      · simp only [Prod.mk.injEq] at heq
        simp [find?, heq.1, heq.2]
      · have hlt : other < key := hhead _ hrest
        have hne : key ≠ other := by
          rintro rfl
          exact String.lt_irrefl _ hlt
        simpa [find?, hne] using ih htail hrest

/-- A key that is smaller than all others is not found. -/
theorem find?_of_lt {key : String} {entries : List (String × α)}
    (h : ∀ entry ∈ entries, key < entry.1) : find? key entries = none := by
  cases hfind : find? key entries with
  | none => rfl
  | some value => exact absurd (h _ (mem_of_find? hfind)) (String.lt_irrefl key)

theorem mem_iff_find? {key : String} {value : α} {entries : List (String × α)}
    (hsorted : Sorted entries) : (key, value) ∈ entries ↔ find? key entries = some value :=
  ⟨find?_of_mem hsorted, mem_of_find?⟩

theorem mem_of_mem_ofList {entry : String × α} {entries : List (String × α)}
    (h : entry ∈ ofList entries) : entry ∈ entries := by
  suffices ∀ acc : List (String × α),
      entry ∈ entries.foldl (fun acc e => insert e.1 e.2 acc) acc → entry ∈ acc ∨ entry ∈ entries by
    simpa using this [] h
  clear h
  induction entries with
  | nil => exact fun acc hacc => .inl hacc
  | cons head rest ih =>
      intro acc hacc
      rcases ih _ hacc with hinsert | hrest
      · rcases mem_insert hinsert with rfl | hold
        · exact .inr List.mem_cons_self
        · exact .inl hold
      · exact .inr (List.mem_cons_of_mem _ hrest)

/-! What is found in a list of bindings of which the last of a key stands. -/

theorem find?_foldl_insert (key : String) (entries acc : List (String × α)) :
    find? key (entries.foldl (fun acc e => insert e.1 e.2 acc) acc) =
      (find? key (ofList entries)).or (find? key acc) := by
  unfold ofList
  induction entries generalizing acc with
  | nil => rfl
  | cons head rest ih =>
      rw [List.foldl_cons, List.foldl_cons, ih, ih (insert head.1 head.2 []), find?_insert,
        find?_insert, Option.or_assoc]
      by_cases hkey : key = head.1 <;> simp [hkey, find?]

@[simp] theorem find?_ofList_nil (key : String) :
    find? key (ofList ([] : List (String × α))) = none :=
  rfl

@[simp] theorem find?_ofList_cons (key other : String) (value : α) (rest : List (String × α)) :
    find? key (ofList ((other, value) :: rest)) =
      (find? key (ofList rest)).or (if key = other then some value else none) :=
  find?_foldl_insert key rest [(other, value)]

@[simp] theorem find?_ofList_append (key : String) (xs ys : List (String × α)) :
    find? key (ofList (xs ++ ys)) = (find? key (ofList ys)).or (find? key (ofList xs)) := by
  rw [ofList, List.foldl_append, find?_foldl_insert]
  rfl

@[simp] theorem find?_ofList_unless (key other : String) (value : α) (c : Prop) [Decidable c] :
    find? key (ofList (if c then [] else [(other, value)])) =
      if key = other then (if c then none else some value) else none := by
  split <;> simp

@[simp] theorem find?_ofList_optional {β : Type v} (key other : String) (write : β → α)
    (value : Option β) :
    find? key (ofList (value.map fun x => (other, write x)).toList) =
      if key = other then value.map write else none := by
  cases value <;> simp

/-! Sorted lists of bindings. -/

theorem insert_of_last {key : String} {entries : List (String × α)} (value : α)
    (h : ∀ entry ∈ entries, entry.1 < key) :
    insert key value entries = entries ++ [(key, value)] := by
  induction entries with
  | nil => rfl
  | cons head rest ih =>
      have hhead : head.1 < key := h head List.mem_cons_self
      have hnot : ¬ key < head.1 := fun hlt => String.lt_irrefl _ (String.lt_trans hhead hlt)
      have hne : key ≠ head.1 := by
        rintro rfl
        exact String.lt_irrefl _ hhead
      simp only [insert, hnot, if_false, hne]
      rw [ih fun entry hentry => h entry (List.mem_cons_of_mem _ hentry), List.cons_append]

theorem ofList_of_sorted {entries : List (String × α)} (h : Sorted entries) :
    ofList entries = entries := by
  suffices ∀ acc : List (String × α), Sorted (acc ++ entries) →
      entries.foldl (fun acc e => insert e.1 e.2 acc) acc = acc ++ entries from this [] h
  clear h
  induction entries with
  | nil => exact fun acc _ => (List.append_nil acc).symm
  | cons head rest ih =>
      intro acc hsorted
      have hlast : ∀ entry ∈ acc, entry.1 < head.1 := fun entry hentry =>
        (List.pairwise_append.1 hsorted).2.2 entry hentry head List.mem_cons_self
      rw [List.foldl_cons, insert_of_last _ hlast, ih, List.append_assoc, List.singleton_append]
      rwa [List.append_assoc, List.singleton_append]

/-- Of a sorted list one entry at most has a key. -/
theorem filter_key {entries : List (String × α)} (hsorted : Sorted entries) (key : String) :
    entries.filter (fun entry => entry.1 == key) =
      ((find? key entries).map fun value => (key, value)).toList := by
  induction entries with
  | nil => rfl
  | cons head rest ih =>
      obtain ⟨other, value⟩ := head
      obtain ⟨hhead, hrest⟩ := List.pairwise_cons.1 hsorted
      rw [List.filter_cons, ih hrest]
      by_cases hkey : key = other
      · subst hkey
        simp [find?, find?_of_lt hhead]
      · simp [find?, hkey, Ne.symm hkey]

end Entries

namespace Dict

variable {α : Type u}

@[simp] theorem get?_empty (key : String) : (∅ : Dict α).get? key = none := rfl

theorem get?_insert (d : Dict α) (key k : String) (value : α) :
    (d.insert key value).get? k = if k = key then some value else d.get? k :=
  Entries.find?_insert key k value d.entries

@[simp] theorem get?_insert_self (d : Dict α) (key : String) (value : α) :
    (d.insert key value).get? key = some value := by
  simp [get?_insert]

theorem mem_entries {d : Dict α} {key : String} {value : α} :
    (key, value) ∈ d.entries ↔ d.get? key = some value :=
  Entries.mem_iff_find? d.sorted

theorem ext_entries {d d' : Dict α} (h : d.entries = d'.entries) : d = d' := by
  obtain ⟨entries, hsorted⟩ := d
  obtain ⟨entries', hsorted'⟩ := d'
  simpa only [Dict.mk.injEq] using h

theorem entries_nodup (d : Dict α) : d.entries.Nodup := by
  refine d.sorted.imp ?_
  rintro entry _ hlt rfl
  exact String.lt_irrefl _ hlt

/-- A dictionary is determined by what is found in it. -/
theorem ext_get? {d d' : Dict α} (h : ∀ key, d.get? key = d'.get? key) : d = d' := by
  have hperm : d.entries.Perm d'.entries := by
    rw [List.perm_ext_iff_of_nodup d.entries_nodup d'.entries_nodup]
    rintro ⟨key, value⟩
    rw [mem_entries, mem_entries, h]
  refine ext_entries (hperm.eq_of_pairwise (fun a b _ _ hab hba => ?_) d.sorted d'.sorted)
  exact absurd (String.lt_trans hab hba) (String.lt_irrefl _)

theorem keys_pairwise (d : Dict α) : d.keys.Pairwise (· < ·) := List.pairwise_map.2 d.sorted

theorem mem_keys {d : Dict α} {key : String} : key ∈ d.keys ↔ ∃ value, d.get? key = some value := by
  simp only [keys, List.mem_map, Prod.exists, exists_and_right, exists_eq_right, mem_entries]

theorem mem_values {d : Dict α} {value : α} :
    value ∈ d.values ↔ ∃ key, d.get? key = some value := by
  simp only [values, List.mem_map, Prod.exists, exists_eq_right, mem_entries]

theorem get?_filter (d : Dict α) (p : String → α → Bool) (key : String) :
    (d.filter p).get? key = (d.get? key).filter (p key) := by
  apply Option.ext
  intro value
  rw [← mem_entries, Option.filter_eq_some_iff, ← mem_entries]
  simp [filter]

theorem get?_erase (d : Dict α) (key k : String) :
    (d.erase key).get? k = if k = key then none else d.get? k := by
  change (d.filter fun other _ => decide (other ≠ key)).get? k = _
  rw [get?_filter]
  by_cases hk : k = key
  · simp [hk]
  · cases d.get? k <;> simp [hk]

theorem get?_of_get?_erase {d : Dict α} {key k : String} {value : α}
    (h : (d.erase key).get? k = some value) : d.get? k = some value :=
  mem_entries.1 (List.mem_filter.1 (mem_entries.2 h)).1

theorem erase_eq_self {d : Dict α} {key : String} (h : d.get? key = none) : d.erase key = d := by
  have hentries : Entries.erase key d.entries = d.entries := by
    rw [Entries.erase, List.filter_eq_self]
    rintro ⟨other, value⟩ hentry
    rw [decide_eq_true_eq]
    rintro rfl
    rw [mem_entries, h] at hentry
    cases hentry
  obtain ⟨entries, hsorted⟩ := d
  simpa only [erase, Dict.mk.injEq] using hentries

theorem contains_iff {d : Dict α} {key : String} :
    d.contains key = true ↔ ∃ value, d.get? key = some value :=
  Option.isSome_iff_exists

theorem contains_eq_false {d : Dict α} {key : String} :
    d.contains key = false ↔ d.get? key = none := by
  simp [contains]

theorem contains_ofList (entries : List (String × α)) (key : String) :
    (ofList entries).contains key = true ↔ ∃ value, (key, value) ∈ entries := by
  change (Entries.find? key (Entries.ofList entries)).isSome = true ↔ _
  induction entries with
  | nil => simp
  | cons head rest ih =>
      obtain ⟨other, value⟩ := head
      rw [Entries.find?_ofList_cons, Option.isSome_or, Bool.or_eq_true, ih]
      by_cases hkey : key = other <;> simp [hkey]

/-- In a dictionary made of a list of bindings the last one of a key is found. -/
theorem get?_ofList_eq_lookup (entries : List (String × α)) (key : String) :
    (ofList entries).get? key = entries.reverse.lookup key := by
  change Entries.find? key (Entries.ofList entries) = _
  induction entries with
  | nil => rfl
  | cons head rest ih =>
      obtain ⟨other, value⟩ := head
      rw [Entries.find?_ofList_cons, ih, List.reverse_cons, List.lookup_append]
      by_cases hkey : key = other
      · simp [hkey]
      · have hbeq : (key == other) = false := beq_false_of_ne hkey
        simp [List.lookup_cons, hbeq, hkey]

theorem get?_ofList_eq_some {bindings : List (String × α)} {key : String} {value : α} :
    (ofList bindings).get? key = some value ↔
      ∃ before after, bindings = before ++ (key, value) :: after ∧ ∀ b ∈ after, b.1 ≠ key := by
  rw [get?_ofList_eq_lookup, List.lookup_eq_some_iff]
  constructor
  · rintro ⟨after, before, hreverse, hafter⟩
    refine ⟨before.reverse, after.reverse, ?_, fun b hb => ?_⟩
    · rw [← List.reverse_reverse bindings, hreverse]
      simp
    · exact Ne.symm (bne_iff_ne.1 (hafter b (List.mem_reverse.1 hb)))
  · rintro ⟨before, after, rfl, hafter⟩
    refine ⟨after.reverse, before.reverse, by simp, fun b hb => ?_⟩
    exact bne_iff_ne.2 (Ne.symm (hafter b (List.mem_reverse.1 hb)))

/-- What is found in a dictionary made of a list of bindings is one of them. -/
theorem mem_of_get?_ofList {entries : List (String × α)} {key : String} {value : α}
    (h : (ofList entries).get? key = some value) : (key, value) ∈ entries :=
  Entries.mem_of_mem_ofList (mem_entries.2 h)

/-- A dictionary made of bindings with different keys has all of them. -/
theorem get?_ofList_of_nodup {bindings : List (String × α)}
    (hdistinct : (bindings.map (·.1)).Nodup) {key : String} {value : α} :
    (ofList bindings).get? key = some value ↔ (key, value) ∈ bindings := by
  refine ⟨mem_of_get?_ofList, fun hmem => ?_⟩
  obtain ⟨other, hother⟩ := contains_iff.1 ((contains_ofList bindings key).2 ⟨value, hmem⟩)
  have hsame : (key, other) = (key, value) :=
    List.inj_on_of_nodup_map hdistinct (mem_of_get?_ofList hother) hmem rfl
  rw [hother, (Prod.mk.inj hsame).2]

/-- The order of bindings with different keys does not matter. -/
theorem ofList_perm {bindings others : List (String × α)} (h : bindings.Perm others)
    (hdistinct : (bindings.map (·.1)).Nodup) : ofList bindings = ofList others := by
  have hdistinct' : (others.map (·.1)).Nodup := (h.map _).nodup_iff.1 hdistinct
  refine ext_get? fun key => Option.ext fun value => ?_
  rw [get?_ofList_of_nodup hdistinct, get?_ofList_of_nodup hdistinct', h.mem_iff]

/-- A dictionary made of a sorted list has what is found in the list. -/
theorem get?_ofList {entries : List (String × α)} (hsorted : Entries.Sorted entries)
    (key : String) : (ofList entries).get? key = Entries.find? key entries :=
  congrArg (Entries.find? key) (Entries.ofList_of_sorted hsorted)

theorem empty_of_isEmpty {d : Dict α} (h : d.isEmpty = true) : ∅ = d := by
  obtain ⟨entries, hsorted⟩ := d
  obtain rfl := List.isEmpty_iff.1 h
  rfl

theorem ofList_entries (d : Dict α) : ofList d.entries = d := by
  have hentries : Entries.ofList d.entries = d.entries := Entries.ofList_of_sorted d.sorted
  obtain ⟨entries, hsorted⟩ := d
  simpa only [ofList, Dict.mk.injEq] using hentries

/-- A dictionary is made again of its bindings, in whichever order they come. -/
theorem ofList_of_perm {bindings : List (String × α)} {d : Dict α} (h : bindings.Perm d.entries) :
    ofList bindings = d := by
  have hdistinct : d.keys.Nodup := by
    refine d.keys_pairwise.imp ?_
    rintro key _ hlt rfl
    exact String.lt_irrefl key hlt
  rw [ofList_perm h ((h.map _).nodup_iff.2 hdistinct), ofList_entries]

theorem get?_override (base added : Dict α) (key : String) :
    (base.override added).get? key = (added.get? key).or (base.get? key) := by
  obtain ⟨entries, hsorted⟩ := added
  simp only [override, get?]
  induction entries generalizing base with
  | nil => rfl
  | cons head rest ih =>
      obtain ⟨hfirst, hrest⟩ := List.pairwise_cons.1 hsorted
      rw [List.foldl_cons, ih _ hrest]
      by_cases hkey : key = head.1
      · have hnone : Entries.find? key rest = none := by
          rw [hkey]
          exact Entries.find?_of_lt hfirst
        rw [hnone, Option.none_or]
        simp [insert, Entries.find?_insert, Entries.find?, hkey]
      · simp [insert, Entries.find?_insert, Entries.find?, hkey]

end Dict

/-- A selector fits labels that have every entry of it. -/
theorem Labels.fits_iff {selector labels : Labels} :
    selector.fits labels = true ↔
      ∀ key value, selector.get? key = some value → labels.get? key = some value := by
  simp only [Labels.fits, Dict.toList, List.all_eq_true, Prod.forall, Dict.mem_entries, beq_iff_eq]

end Orchestrator
