import Orchestrator.Proofs.Except
import Orchestrator.Proofs.Text.KeyValue
import Orchestrator.Proofs.Text.Spacing
import Orchestrator.Template.Toolset

/-!
What the filters for lists of keys and values and for blanks make of a value.

Both read any value as text. The first gives a map with what the entries of the text say, and
nothing else; the second gives the words of the text with single spaces.
-/

namespace Orchestrator

namespace Template

open Value (ofText)

/-! ## Filters that read a text -/

/-- What a filter makes of a value, without further arguments. -/
def Value.through (v : Value) (name : String) : Except Fault Value :=
  applyFilter name ⟨[v], Option.none⟩

theorem Value.through_of_onText {name : String} {f : String → Except Fault Value}
    (h : baseFilters.lookup name = some (Extension.onText f)) (v : Value) :
    v.through name = f v.plainText := by
  simp only [Value.through, applyFilter, applyFilterWithin, h]
  -- the filter takes the value, and no argument is left over
  rfl

/-- The map of a dictionary of texts. -/
def Value.ofTexts (d : Dict String) : Value :=
  .map (d.toList.map fun entry => (ofText entry.1, ofText entry.2))

theorem through_kvp (v : Value) :
    v.through "kvp" = .ok (.ofTexts (Text.keyValues v.plainText)) := by
  have hfilter : baseFilters.lookup "kvp" =
      some (Extension.onText fun s => .ok (Extension.keyValues s)) := rfl
  exact Value.through_of_onText hfilter v

theorem through_removedupwhitespaces (v : Value) :
    v.through "removedupwhitespaces" = .ok (ofText (Text.collapseBlanks v.plainText)) := by
  have hfilter : baseFilters.lookup "removedupwhitespaces" =
      some (Extension.onText fun s => .ok (ofText (Text.collapseBlanks s))) := rfl
  exact Value.through_of_onText hfilter v

theorem through_safecopypaste (v : Value) :
    v.through "safecopypaste" = .ok (ofText (Text.plainSpaces v.plainText)) := by
  have hfilter : baseFilters.lookup "safecopypaste" =
      some (Extension.onText fun s => .ok (ofText (Text.plainSpaces s))) := rfl
  exact Value.through_of_onText hfilter v

@[simp] theorem plainText_ofText (s : String) : (ofText s).plainText = s := rfl

/-! ## Lists of keys and values -/

theorem order_ofText (s t : String) : (ofText s).order (ofText t) = compare s t := rfl

theorem lookup_ofText (key : String) (entries : List (String × String)) :
    Value.lookup (ofText key) (entries.map fun entry => (ofText entry.1, ofText entry.2)) =
      (Entries.find? key entries).map ofText := by
  induction entries with
  | nil => rfl
  | cons entry rest ih =>
      obtain ⟨other, value⟩ := entry
      rw [List.map_cons, Value.lookup, order_ofText, ih, Entries.find?]
      by_cases hkey : key = other
      · simp [hkey]
      · simp [hkey, Ne.symm hkey]

/-- In the map of a dictionary a template finds what is found in the dictionary. -/
theorem item?_ofTexts (d : Dict String) (key : String) :
    (Value.ofTexts d).item? (ofText key) = (d.get? key).map ofText :=
  lookup_ofText key d.entries

/-- A value is read as a list of entries: its text holds them with a comma between them, and they
are free of commas. -/
structure Value.Lists (v : Value) (entries : List (List Char)) : Prop where
  text : v.plainText = Text.listing entries
  free : ∀ entry ∈ entries, ',' ∉ entry

/-- The map of a list has the keys that some entry binds, each with the value that the last of these
entries binds it to. Malformed entries can be put in and taken out anywhere. A dictionary whose keys
and values can be listed is read back from its list, in whichever order it is written. -/
theorem listing_read_back :
    (∀ (v : Value) (entries : List (List Char)), v.Lists entries →
      ∃ d : Dict String, v.through "kvp" = .ok (.ofTexts d) ∧
        (∀ key, (Value.ofTexts d).item? (ofText key) = (d.get? key).map ofText) ∧
        (∀ key, d.contains key = true ↔ ∃ entry ∈ entries, ∃ value, Text.Binds key value entry) ∧
        ∀ key value, d.get? key = some value ↔ Text.LastBinds entries key value) ∧
      (∀ (v w : Value) (entries others : List (List Char)), v.Lists entries → w.Lists others →
        Text.SameBindings entries others → v.through "kvp" = w.through "kvp") ∧
      ∀ (v : Value) (d : Dict String) (bindings : List (String × String)),
        (∀ key value, d.get? key = some value → Text.Listable key value) →
        bindings.Perm d.toList → v.plainText = Text.listing (bindings.map Text.written) →
        v.through "kvp" = .ok (.ofTexts d) := by
  refine ⟨fun v entries h => ?_, fun v w entries others hv hw hsame => ?_,
    fun v d bindings hlistable hperm htext => ?_⟩
  · refine ⟨Text.keyValues (Text.listing entries), ?_, item?_ofTexts _, ?_, ?_⟩
    · rw [through_kvp, h.text]
    · exact fun key => Text.contains_listing h.free
    · exact fun key value => Text.get?_listing h.free
  · rw [through_kvp, through_kvp, hv.text, hw.text, Text.keyValues_listing hv.free,
      Text.keyValues_listing hw.free, hsame.filterMap_eq]
  · rw [through_kvp, htext, Text.keyValues_written hperm hlistable]

/-- Bread is written down twice, flour without an amount and milk with two of them. -/
def groceries : List (List Char) :=
  [" bread = 2 ", "flour", "=3", "milk=1=2", "bread=4", "tea=\t"].map String.toList

/-- What is left of the groceries without the malformed entries. -/
def clearGroceries : List (List Char) := [" bread = 2 ", "bread=4", "tea=\t"].map String.toList

theorem groceries_read_back :
    let list := ofText " bread = 2 ,flour,=3,milk=1=2,bread=4,tea=\t"
    let clear := ofText " bread = 2 ,bread=4,tea=\t"
    let bought : Dict String := .ofList [("bread", "4"), ("tea", "")]
    list.Lists groceries ∧ clear.Lists clearGroceries ∧
      Text.SameBindings groceries clearGroceries ∧
      (∃ d : Dict String, list.through "kvp" = .ok (.ofTexts d) ∧ d.get? "bread" = some "4") ∧
      list.through "kvp" = clear.through "kvp" ∧
      (ofText "tea=,bread=4").through "kvp" = .ok (.ofTexts bought) := by
  intro list clear bought
  obtain ⟨hread, hsilent, hback⟩ := listing_read_back
  have hlist : list.Lists groceries := ⟨by decide +kernel, by decide +kernel⟩
  have hclear : clear.Lists clearGroceries := ⟨by decide +kernel, by decide +kernel⟩
  have hsame : Text.SameBindings groceries clearGroceries := by
    have hflour : Text.Malformed "flour".toList := .noSign (by decide)
    have hnameless : Text.Malformed ([] ++ '=' :: ['3']) := .blankKey (by simp)
    have hmilk : Text.Malformed "milk=1=2".toList := .manySigns (by decide)
    exact .keep (.takeOut hflour (.takeOut hnameless (.takeOut hmilk (.keep (.keep .nil)))))
  have hbread : Text.LastBinds groceries "bread" "4" := by
    refine ⟨groceries.take 4, "bread=4".toList, ["tea=\t".toList], rfl,
      Text.keyValue?_eq_some.1 (by decide +kernel), fun later hlater other hbinds => ?_⟩
    obtain rfl := List.mem_singleton.1 hlater
    have htea : Text.keyValue? "tea=\t".toList = some ("tea", "") := by decide +kernel
    rw [← Text.keyValue?_eq_some, htea] at hbinds
    simp at hbinds
  have hlistable : ∀ key value, bought.get? key = some value → Text.Listable key value := by
    intro key value h
    have hmem := Dict.mem_of_get?_ofList h
    simp only [List.mem_cons, Prod.mk.injEq, List.not_mem_nil, or_false] at hmem
    obtain ⟨rfl, rfl⟩ | ⟨rfl, rfl⟩ := hmem
    · exact ⟨by decide, by decide, by decide, by decide, by decide⟩
    · exact ⟨by decide, by decide, by decide, by decide, by decide⟩
  have hwritten : (ofText "tea=,bread=4").through "kvp" = .ok (.ofTexts bought) :=
    hback _ bought [("tea", ""), ("bread", "4")] hlistable (by decide +kernel) (by decide +kernel)
  obtain ⟨d, hd, -, -, hvalues⟩ := hread list groceries hlist
  exact ⟨hlist, hclear, hsame, ⟨d, hd, (hvalues "bread" "4").2 hbread⟩,
    hsilent list clear groceries clearGroceries hlist hclear hsame, hwritten⟩

/-! ## Blanks -/

/-- The filter for blanks gives the text with its blanks made uniform. Applied twice it gives the
same, and so it does with no-break spaces replaced before or after it. -/
theorem blanks_made_uniform (v : Value) :
    ∃ s : String, v.through "removedupwhitespaces" = .ok (ofText s) ∧
      Text.Respaced v.plainText.toList s.toList ∧
      (v.through "removedupwhitespaces" >>= (·.through "removedupwhitespaces")) = .ok (ofText s) ∧
      (v.through "safecopypaste" >>= (·.through "removedupwhitespaces")) = .ok (ofText s) ∧
      (v.through "removedupwhitespaces" >>= (·.through "safecopypaste")) = .ok (ofText s) := by
  have hcollapse := through_removedupwhitespaces v
  have hplain := through_safecopypaste v
  refine ⟨_, hcollapse, Text.respaced_collapseBlanks v.plainText,
    bind_eq_ok.2 ⟨_, hcollapse, ?twice⟩, bind_eq_ok.2 ⟨_, hplain, ?before⟩,
    bind_eq_ok.2 ⟨_, hcollapse, ?after⟩⟩
  case twice => rw [through_removedupwhitespaces, plainText_ofText, Text.collapseBlanks_idem]
  case before => rw [through_removedupwhitespaces, plainText_ofText, Text.collapseBlanks_plainSpaces]
  case after => rw [through_safecopypaste, plainText_ofText, Text.plainSpaces_collapseBlanks]

end Template

end Orchestrator
