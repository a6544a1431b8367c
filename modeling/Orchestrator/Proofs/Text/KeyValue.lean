import Mathlib.Data.List.Basic
import Orchestrator.Proofs.Dict
import Orchestrator.Proofs.Text.Cuts
import Orchestrator.Text.KeyValue

/-!
Which keys and values are read from a list of entries.

What an entry says is stated on its own: a key and a value with one equals sign between them and
blanks around both, or nothing. The reader finds exactly this. So the last entry of a key stands,
malformed entries make no difference, and what has been listed is read back.
-/

namespace Orchestrator.Text

/-! ## Entries -/

/-- An entry binds a key to a value: both stand around its only equals sign, with blanks around
them. The value may be empty, the key may not. -/
inductive Binds (key value : String) : List Char → Prop where
  | intro {front back : List Char} (hfront : '=' ∉ front) (hback : '=' ∉ back)
      (hkey : Padded key.toList front) (hvalue : Padded value.toList back) (hnonempty : key ≠ "") :
      Binds key value (front ++ '=' :: back)

/-- An entry says nothing: it has no equals sign, or more than one, or only blanks for a key. -/
inductive Malformed : List Char → Prop where
  | noSign {entry : List Char} (h : '=' ∉ entry) : Malformed entry
  | manySigns {entry : List Char} (h : 2 ≤ entry.count '=') : Malformed entry
  | blankKey {front back : List Char} (h : ∀ c ∈ front, isBlank c = true) :
      Malformed (front ++ '=' :: back)

theorem ofList_trimChars_eq_empty {cs : List Char} :
    String.ofList (trimChars cs) = "" ↔ cs.all isBlank = true := by
  rw [List.all_eq_true, ← trimChars_eq_nil]
  simp

theorem padded_toList {core : String} {cs : List Char} :
    Padded core.toList cs ↔ String.ofList (trimChars cs) = core := by
  rw [← trimChars_eq_iff]
  constructor
  · intro h
    rw [h, String.ofList_toList]
  · rintro rfl
    rw [String.toList_ofList]

/-! What is read from an entry depends on how many equals signs it has. -/

theorem exists_pair {entry : List Char} (h : entry.count '=' = 1) :
    ∃ front back, entry = front ++ '=' :: back ∧ '=' ∉ front ∧ '=' ∉ back := by
  have hlength : (splitAt '=' entry).length = 2 := by rw [length_splitAt, h]
  obtain ⟨front, back, hsplit⟩ := List.length_eq_two.1 hlength
  exact ⟨front, back, splitAt_eq_pair.1 hsplit⟩

theorem keyValue?_of_pair {front back : List Char} (hfront : '=' ∉ front) (hback : '=' ∉ back) :
    keyValue? (front ++ '=' :: back) =
      if front.all isBlank then none
      else some (String.ofList (trimChars front), String.ofList (trimChars back)) := by
  rw [keyValue?, splitAt_eq_pair.2 ⟨rfl, hfront, hback⟩]

theorem keyValue?_of_count {entry : List Char} (h : entry.count '=' ≠ 1) :
    keyValue? entry = none := by
  unfold keyValue?
  split
  · next front back hsplit =>
    have hlength := length_splitAt '=' entry
    rw [hsplit, List.length_cons, List.length_singleton] at hlength
    omega
  · rfl

theorem keyValue?_eq_some {key value : String} {entry : List Char} :
    keyValue? entry = some (key, value) ↔ Binds key value entry := by
  constructor
  · intro h
    have hcount : entry.count '=' = 1 := by
      by_contra hcount
      rw [keyValue?_of_count hcount] at h
      cases h
    obtain ⟨front, back, rfl, hfront, hback⟩ := exists_pair hcount
    rw [keyValue?_of_pair hfront hback] at h
    split at h
    · cases h
    · next hblank =>
      obtain ⟨hkey, hvalue⟩ := Prod.mk.inj (Option.some.inj h)
      refine .intro hfront hback (padded_toList.2 hkey) (padded_toList.2 hvalue) fun hempty => ?_
      exact hblank (ofList_trimChars_eq_empty.1 (hkey.trans hempty))
  · intro h
    cases h with
    | @intro front back hfront hback hkey hvalue hnonempty =>
        rw [padded_toList] at hkey hvalue
        have hblank : ¬ front.all isBlank = true :=
          fun hblank => hnonempty (hkey.symm.trans (ofList_trimChars_eq_empty.2 hblank))
        rw [keyValue?_of_pair hfront hback, if_neg hblank, hkey, hvalue]

theorem keyValue?_eq_none {entry : List Char} : keyValue? entry = none ↔ Malformed entry := by
  constructor
  · intro h
    by_cases hcount : entry.count '=' = 1
    case pos =>
      obtain ⟨front, back, rfl, hfront, hback⟩ := exists_pair hcount
      rw [keyValue?_of_pair hfront hback] at h
      exact .blankKey (by simpa using h)
    case neg =>
      by_cases hmem : '=' ∈ entry
      · have hpos : 0 < entry.count '=' := List.count_pos_iff.2 hmem
        exact .manySigns (by omega)
      · exact .noSign hmem
  · intro h
    cases h with
    | noSign hmem => exact keyValue?_of_count (by simp [List.count_eq_zero.2 hmem])
    | manySigns hcount => exact keyValue?_of_count (by omega)
    | @blankKey front back hblank =>
        -- the value may hold signs as well, and then the key is not looked at
        by_cases hback : '=' ∈ back
        case pos =>
          have hpos : 0 < back.count '=' := List.count_pos_iff.2 hback
          have hcount : (front ++ '=' :: back).count '=' ≠ 1 := by
            rw [List.count_append, List.count_cons_self]
            omega
          exact keyValue?_of_count hcount
        case neg =>
          have hfront : '=' ∉ front := fun hsign => absurd (hblank '=' hsign) (by decide)
          rw [keyValue?_of_pair hfront hback, if_pos (List.all_eq_true.2 hblank)]

/-! ## Lists of entries -/

/-- Entries with a comma between them. -/
def listing (entries : List (List Char)) : String := String.ofList ([','].intercalate entries)

theorem keyValues_listing {entries : List (List Char)} (h : ∀ entry ∈ entries, ',' ∉ entry) :
    keyValues (listing entries) = Dict.ofList (entries.filterMap keyValue?) := by
  cases entries with
  | nil => rfl
  | cons entry rest =>
      rw [keyValues, listing, String.toList_ofList, splitAt_eq_splitOn,
        List.splitOn_intercalate ',' h (List.cons_ne_nil entry rest)]

/-- The last of the entries that bind a key binds it to a value. -/
def LastBinds (entries : List (List Char)) (key value : String) : Prop :=
  ∃ before entry after, entries = before ++ entry :: after ∧ Binds key value entry ∧
    ∀ later ∈ after, ∀ other, ¬ Binds key other later

theorem get?_listing {entries : List (List Char)} (h : ∀ entry ∈ entries, ',' ∉ entry)
    {key value : String} :
    (keyValues (listing entries)).get? key = some value ↔ LastBinds entries key value := by
  rw [keyValues_listing h, Dict.get?_ofList_eq_some]
  constructor
  · rintro ⟨front, back, hbindings, hlast⟩
    obtain ⟨before, rest, rfl, -, hrest⟩ := List.filterMap_eq_append_iff.1 hbindings
    obtain ⟨passed, entry, after, rfl, -, hentry, hafter⟩ := List.filterMap_eq_cons_iff.1 hrest
    refine ⟨before ++ passed, entry, after, by simp, keyValue?_eq_some.1 hentry, ?_⟩
    intro later hlater other hbinds
    have hmem : (key, other) ∈ back :=
      hafter ▸ List.mem_filterMap.2 ⟨later, hlater, keyValue?_eq_some.2 hbinds⟩
    exact hlast _ hmem rfl
  · rintro ⟨before, entry, after, rfl, hbinds, hlast⟩
    refine ⟨before.filterMap keyValue?, after.filterMap keyValue?, ?_, ?_⟩
    · rw [List.filterMap_append, List.filterMap_cons_some (keyValue?_eq_some.2 hbinds)]
    · rintro ⟨other, value'⟩ hmem rfl
      obtain ⟨later, hlater, hread⟩ := List.mem_filterMap.1 hmem
      exact hlast later hlater value' (keyValue?_eq_some.1 hread)

theorem contains_listing {entries : List (List Char)} (h : ∀ entry ∈ entries, ',' ∉ entry)
    {key : String} :
    (keyValues (listing entries)).contains key = true ↔
      ∃ entry ∈ entries, ∃ value, Binds key value entry := by
  rw [keyValues_listing h, Dict.contains_ofList]
  simp only [List.mem_filterMap, keyValue?_eq_some]
  constructor
  · rintro ⟨value, entry, hentry, hbinds⟩
    exact ⟨entry, hentry, value, hbinds⟩
  · rintro ⟨entry, hentry, value, hbinds⟩
    exact ⟨value, entry, hentry, hbinds⟩

/-- Two lists of entries differ in malformed entries alone, which were put in or taken out
anywhere. -/
inductive SameBindings : List (List Char) → List (List Char) → Prop where
  | nil : SameBindings [] []
  | keep {entry : List Char} {entries others : List (List Char)} (h : SameBindings entries others) :
      SameBindings (entry :: entries) (entry :: others)
  | putIn {entry : List Char} {entries others : List (List Char)} (hentry : Malformed entry)
      (h : SameBindings entries others) : SameBindings entries (entry :: others)
  | takeOut {entry : List Char} {entries others : List (List Char)} (hentry : Malformed entry)
      (h : SameBindings entries others) : SameBindings (entry :: entries) others

theorem SameBindings.filterMap_eq {entries others : List (List Char)}
    (h : SameBindings entries others) :
    entries.filterMap keyValue? = others.filterMap keyValue? := by
  induction h with
  | nil => rfl
  | keep _ ih => rw [List.filterMap_cons, List.filterMap_cons, ih]
  | putIn hentry _ ih => rw [ih, List.filterMap_cons_none (keyValue?_eq_none.2 hentry)]
  | takeOut hentry _ ih => rw [List.filterMap_cons_none (keyValue?_eq_none.2 hentry), ih]

/-! ## Listed dictionaries -/

/-- A key with its value. -/
def written (binding : String × String) : List Char :=
  binding.1.toList ++ '=' :: binding.2.toList

/-- A key and a value that can be written into a list as they are. -/
structure Listable (key value : String) : Prop where
  key_ne : key ≠ ""
  key_trimmed : Trimmed key.toList
  value_trimmed : Trimmed value.toList
  key_free : ',' ∉ key.toList ∧ '=' ∉ key.toList
  value_free : ',' ∉ value.toList ∧ '=' ∉ value.toList

theorem Listable.binds {key value : String} (h : Listable key value) :
    Binds key value (written (key, value)) :=
  .intro h.key_free.2 h.value_free.2 h.key_trimmed.padded h.value_trimmed.padded h.key_ne

theorem Listable.not_mem {key value : String} (h : Listable key value) :
    ',' ∉ written (key, value) := by
  simp [written, h.key_free.1, h.value_free.1]

theorem filterMap_written {bindings : List (String × String)}
    (h : ∀ binding ∈ bindings, Listable binding.1 binding.2) :
    (bindings.map written).filterMap keyValue? = bindings := by
  induction bindings with
  | nil => rfl
  | cons binding rest ih =>
      rw [List.forall_mem_cons] at h
      rw [List.map_cons, List.filterMap_cons_some (keyValue?_eq_some.2 h.1.binds), ih h.2]

theorem keyValues_written {d : Dict String} {bindings : List (String × String)}
    (hperm : bindings.Perm d.toList)
    (h : ∀ key value, d.get? key = some value → Listable key value) :
    keyValues (listing (bindings.map written)) = d := by
  have hlistable : ∀ binding ∈ bindings, Listable binding.1 binding.2 :=
    fun binding hmem => h _ _ (Dict.mem_entries.1 (hperm.mem_iff.1 hmem))
  have hfree : ∀ entry ∈ bindings.map written, ',' ∉ entry := by
    intro entry hentry
    obtain ⟨binding, hmem, rfl⟩ := List.mem_map.1 hentry
    exact (hlistable binding hmem).not_mem
  rw [keyValues_listing hfree, filterMap_written hlistable, Dict.ofList_of_perm hperm]

end Orchestrator.Text
