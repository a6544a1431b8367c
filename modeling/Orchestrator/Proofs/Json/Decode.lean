import Orchestrator.Json.Decode
import Orchestrator.Proofs.Dict
import Orchestrator.Proofs.Except

/-!
Laws of typed reading: what is written of a value reads back to it, and whatever is read is a value
that can be written.

Both are proved for texts and passed on to lists, options, dictionaries and records. Records are
written as objects only but also read from arrays, so the first law of a record is about objects
and the second about both.
-/

namespace Orchestrator.Decode

variable {α β : Type}

/-- Reading undoes writing for the good values, and gives no others. -/
structure Lawful (good : α → Prop) (write : α → Json) (read : Decoder α) : Prop where
  read_write : ∀ x, good x → read (write x) = .ok x
  good_of_read : ∀ j x, read j = .ok x → good x

/-- Every value of the type. -/
def Any (_ : α) : Prop := True

variable {good : α → Prop} {write : α → Json} {read : Decoder α}

theorem Lawful.of_all (h : ∀ x, read (write x) = .ok x) : Lawful Any write read :=
  ⟨fun x _ => h x, fun _ _ _ => trivial⟩

/-! ## Parts -/

theorem lawful_text : Lawful Any Json.str text := .of_all fun _ => rfl

theorem lawful_any : Lawful Any id any := .of_all fun _ => rfl

theorem elements_write (h : Lawful good write read) {xs : List α} (hxs : ∀ x ∈ xs, good x) :
    elements read (xs.map write) = .ok xs := by
  induction xs with
  | nil => rfl
  | cons x xs ih =>
      have hx := h.read_write x (hxs x List.mem_cons_self)
      have hrest := ih fun y hy => hxs y (List.mem_cons_of_mem _ hy)
      simp only [List.map_cons, elements, hx, hrest]
      rfl

theorem good_of_elements (h : Lawful good write read) {js : List Json} {xs : List α}
    (hxs : elements read js = .ok xs) : ∀ x ∈ xs, good x := by
  induction js generalizing xs with
  | nil =>
      obtain rfl := Except.ok.inj hxs
      exact List.forall_mem_nil _
  | cons j js ih =>
      simp only [elements, bind_eq_ok, pure_eq_ok] at hxs
      obtain ⟨y, hy, ys, hys, rfl⟩ := hxs
      exact List.forall_mem_cons.2 ⟨h.good_of_read j y hy, ih hys⟩

theorem Lawful.list (h : Lawful good write read) :
    Lawful (fun xs => ∀ x ∈ xs, good x) (fun xs => .arr (xs.map write)) (list read) where
  read_write _ hxs := elements_write h hxs
  good_of_read j xs hxs := by
    cases j with
    | arr items => exact good_of_elements h hxs
    | _ => cases hxs

theorem lawful_strings : Lawful Any Json.strings (list text) :=
  .of_all fun xs => lawful_text.list.read_write xs fun _ _ => trivial

theorem bindings_texts (entries : List (String × String)) :
    bindings text (entries.map fun (k, v) => (k, Json.str v)) = .ok entries := by
  induction entries with
  | nil => rfl
  | cons head rest ih =>
      simp only [List.map_cons, bindings, ih]
      rfl

theorem lawful_texts : Lawful Any Json.ofTexts (dict text) := by
  apply Lawful.of_all
  intro d
  simp only [Json.ofTexts, Dict.toList, dict, bindings_texts]
  exact congrArg Except.ok d.ofList_entries

theorem optional_of_ne_null {j : Json} (h : j ≠ Json.null) :
    Decode.optional read j = (read j).map some := by
  cases j with
  | null => exact absurd rfl h
  | _ => rfl

/-- An absent value is written as `null`, which must not be the form of a value. -/
theorem Lawful.optional (h : Lawful good write read) (hnull : ∀ x, write x ≠ Json.null) :
    Lawful (fun o => ∀ x ∈ o, good x) (fun o => (o.map write).getD Json.null)
      (Decode.optional read) where
  read_write o ho := by
    cases o with
    | none => rfl
    | some x =>
        change Decode.optional read (write x) = _
        rw [optional_of_ne_null (hnull x), h.read_write x (ho x rfl)]
        rfl
  good_of_read j o ho := by
    by_cases hj : j = Json.null
    · subst hj
      obtain rfl := Except.ok.inj ho
      intro x hx
      cases hx
    · rw [optional_of_ne_null hj, map_eq_ok] at ho
      obtain ⟨y, hy, rfl⟩ := ho
      intro x hx
      obtain rfl := Option.some.inj hx
      exact h.good_of_read j y hy

/-! ## Records written as objects -/

section Objects

variable {entries : List (String × Json)} {name : String} {x : α}

/-- An object has one entry at most for a field that answers to its name alone. -/
theorem filter_names (name : String) (entries : List (String × Json)) :
    (Entries.ofList entries).filter (fun entry => [name].contains entry.1) =
      ((Entries.find? name (Entries.ofList entries)).map fun j => (name, j)).toList := by
  rw [← Entries.filter_key (Entries.sorted_ofList entries)]
  apply List.filter_congr
  intro entry _
  rw [List.contains_cons, List.contains_nil, Bool.or_false]

theorem find_of_some {field : Field α} (haliases : field.aliases = []) {j : Json}
    (hfind : Entries.find? field.name (Entries.ofList entries) = some j)
    (hread : field.read j = .ok x) : Fields.find field (Entries.ofList entries) = .ok x := by
  rw [Fields.find, haliases, filter_names, hfind]
  change (field.read j).mapError (Fault.bad field.name) = .ok x
  rw [mapError_eq_ok, hread]

theorem find_withDefault_of_none {default : α}
    (hfind : Entries.find? name (Entries.ofList entries) = none) :
    Fields.find (withDefault name read default) (Entries.ofList entries) = .ok default := by
  simp only [Fields.find, withDefault, filter_names, hfind]
  rfl

theorem Lawful.find_required (h : Lawful good write read) (hx : good x)
    (hfind : Entries.find? name (Entries.ofList entries) = some (write x)) :
    Fields.find (required name read) (Entries.ofList entries) = .ok x :=
  find_of_some rfl hfind (h.read_write x hx)

theorem Lawful.find_withDefault (h : Lawful good write read) (hx : good x) (default : α)
    (hfind : Entries.find? name (Entries.ofList entries) = some (write x)) :
    Fields.find (withDefault name read default) (Entries.ofList entries) = .ok x :=
  find_of_some rfl hfind (h.read_write x hx)

/-- A field may be left out where it has its default. -/
theorem Lawful.find_unless (h : Lawful good write read) (hx : good x) {default : α} {c : Prop}
    [Decidable c] (hdefault : c → default = x)
    (hfind : Entries.find? name (Entries.ofList entries) = if c then none else some (write x)) :
    Fields.find (withDefault name read default) (Entries.ofList entries) = .ok x := by
  split at hfind
  · next hc =>
    rw [find_withDefault_of_none hfind, hdefault hc]
  · exact h.find_withDefault hx default hfind

/-- A field may be left out where its value is absent. -/
theorem Lawful.find_optional (h : Lawful good write read) (hnull : ∀ x, write x ≠ Json.null)
    {value : Option α} (hvalue : ∀ x ∈ value, good x)
    (hfind : Entries.find? name (Entries.ofList entries) = value.map write) :
    Fields.find (withDefault name (Decode.optional read) none) (Entries.ofList entries) =
      .ok value := by
  cases value with
  | none => exact find_withDefault_of_none hfind
  | some x => exact (h.optional hnull).find_withDefault hvalue none hfind

/-- The fields of a record are found among the entries of an object. -/
def Fields.Found (fields : Fields α) (entries : List (String × Json)) (x : α) : Prop :=
  fields.ofEntries (Entries.ofList entries) = .ok x

theorem Fields.Found.pure : (Fields.pure x).Found entries x := rfl

theorem Fields.Found.and {fields : Fields (α → β)} {field : Field α} {g : α → β}
    (hfields : fields.Found entries g) (hfield : find field (Entries.ofList entries) = .ok x) :
    (fields.and field).Found entries (g x) := by
  unfold Found at *
  simp only [Fields.and, hfields, hfield]

theorem record_object {title : String} {fields : Fields α} (h : fields.Found entries x) :
    record title fields (Json.object entries) = .ok x := by
  unfold Fields.Found at h
  simp only [Json.object, record, h]

end Objects

/-! ## What a record may hold -/

/-- Every value that the field may get is good, its default among them. -/
structure Field.GivesOnly (field : Field α) (good : α → Prop) : Prop where
  read : ∀ j x, field.read j = .ok x → good x
  inObject : ∀ x, field.presence = .inObject x → good x
  defaulted : ∀ x, field.presence = .defaulted x → good x

theorem Lawful.onlyRequired (h : Lawful good write read) (name : String) :
    (required name read).GivesOnly good :=
  ⟨h.good_of_read, nofun, nofun⟩

theorem Lawful.onlyWithDefault (h : Lawful good write read) (name : String) {default : α}
    (hdefault : good default) : (withDefault name read default).GivesOnly good := by
  refine ⟨h.good_of_read, nofun, ?_⟩
  rintro x hx
  obtain rfl := Presence.defaulted.inj hx
  exact hdefault

theorem Field.GivesOnly.find {field : Field α} (h : field.GivesOnly good)
    {entries : List (String × Json)} {x : α} (hx : Fields.find field entries = .ok x) : good x := by
  unfold Fields.find at hx
  dsimp only at hx
  split at hx
  · split at hx
    · cases hx
    · next hpresence =>
      obtain rfl := Except.ok.inj hx
      exact h.inObject _ hpresence
    · next hpresence =>
      obtain rfl := Except.ok.inj hx
      exact h.defaulted _ hpresence
  · exact h.read _ _ (mapError_eq_ok.1 hx)
  · split at hx <;> cases hx

theorem Field.GivesOnly.next {field : Field α} (h : field.GivesOnly good) {expected : String}
    {cursor cursor' : Cursor} {x : α}
    (hx : Fields.next field expected cursor = .ok (x, cursor')) : good x := by
  unfold Fields.next at hx
  split at hx
  · obtain ⟨y, hy, heq⟩ := map_eq_ok.1 hx
    obtain ⟨rfl, -⟩ := Prod.mk.inj heq
    exact h.read _ _ hy
  · split at hx
    · next hpresence =>
      obtain ⟨rfl, -⟩ := Prod.mk.inj (Except.ok.inj hx)
      exact h.defaulted _ hpresence
    · cases hx

/-- Every record that the fields may give is good, from an object and from an array. -/
structure Fields.GiveOnly (fields : Fields α) (good : α → Prop) : Prop where
  ofEntries : ∀ entries x, fields.ofEntries entries = .ok x → good x
  ofItems : ∀ expected cursor cursor' x,
    fields.ofItems expected cursor = .ok (x, cursor') → good x

theorem Fields.GiveOnly.pure {x : α} (h : good x) : (Fields.pure x).GiveOnly good where
  ofEntries entries y hy := by
    obtain rfl := Except.ok.inj hy
    exact h
  ofItems expected cursor cursor' y hy := by
    obtain ⟨rfl, -⟩ := Prod.mk.inj (Except.ok.inj hy)
    exact h

theorem Fields.GiveOnly.and {fields : Fields (α → β)} {field : Field α} {made : β → Prop}
    (hfields : fields.GiveOnly fun g => ∀ x, good x → made (g x)) (hfield : field.GivesOnly good) :
    (fields.and field).GiveOnly made where
  ofEntries entries y hy := by
    simp only [Fields.and] at hy
    split at hy
    · next g x hg hx =>
      obtain rfl := Except.ok.inj hy
      exact hfields.ofEntries _ g hg x (hfield.find hx)
    all_goals cases hy
  ofItems expected cursor cursor' y hy := by
    simp only [Fields.and, bind_eq_ok, Prod.exists, Except.ok.injEq, Prod.mk.injEq] at hy
    obtain ⟨g, _, hg, x, _, hx, rfl, -⟩ := hy
    exact hfields.ofItems _ _ _ g hg x (hfield.next hx)

/-- A field of which nothing is said. -/
theorem Fields.GiveOnly.skip {fields : Fields (α → β)} {field : Field α} {made : β → Prop}
    (hfields : fields.GiveOnly fun g => ∀ x, made (g x)) : (fields.and field).GiveOnly made := by
  have hfield : field.GivesOnly Any :=
    ⟨fun _ _ _ => trivial, fun _ _ => trivial, fun _ _ => trivial⟩
  refine .and ⟨?_, ?_⟩ hfield
  · exact fun entries g hg x _ => hfields.ofEntries entries g hg x
  · exact fun expected cursor cursor' g hg x _ => hfields.ofItems expected cursor cursor' g hg x

theorem good_of_record {title : String} {fields : Fields α} {j : Json} {x : α}
    (hx : record title fields j = .ok x) (h : fields.GiveOnly good) : good x := by
  cases j with
  | obj entries =>
      simp only [record] at hx
      split at hx
      · next hfields =>
        obtain rfl := Except.ok.inj hx
        exact h.ofEntries _ _ hfields
      all_goals cases hx
  | arr items =>
      simp only [record, bind_eq_ok, Prod.exists] at hx
      obtain ⟨y, cursor, hfields, hy⟩ := hx
      split at hy
      · obtain rfl := pure_eq_ok.1 hy
        exact h.ofItems _ _ _ _ hfields
      · cases hy
  | _ => cases hx

end Orchestrator.Decode
