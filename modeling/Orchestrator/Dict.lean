/-!
Finite maps with text keys, held as the list of their entries in strictly increasing key order.

Two dictionaries with the same bindings are equal, because the order leaves one list for each set
of bindings. Keys are compared by code point, which is the order of their UTF-8 bytes.
-/

namespace Orchestrator

namespace Entries

variable {α : Type u} {β : Type v}

/-- Puts a binding into an entry list, replacing the binding of an equal key and else standing
before the first larger key. -/
def insert (key : String) (value : α) : List (String × α) → List (String × α)
  | [] => [(key, value)]
  | (k, v) :: rest =>
    if key < k then (key, value) :: (k, v) :: rest
    else if key = k then (key, value) :: rest
    else (k, v) :: insert key value rest

/-- The value bound to a key. -/
def find? (key : String) : List (String × α) → Option α
  | [] => none
  | (k, v) :: rest => if key = k then some v else find? key rest

/-- Removes the binding of a key. -/
def erase (key : String) (entries : List (String × α)) : List (String × α) :=
  entries.filter fun entry => entry.1 ≠ key

/-- Sorts bindings by key; of several bindings of one key the last stands. -/
def ofList (entries : List (String × α)) : List (String × α) :=
  entries.foldl (fun acc entry => insert entry.1 entry.2 acc) []

/-- Entries in strictly increasing key order. -/
def Sorted (entries : List (String × α)) : Prop :=
  entries.Pairwise fun a b => a.1 < b.1

theorem mem_insert {key : String} {value : α} {entry : String × α} {entries : List (String × α)}
    (h : entry ∈ insert key value entries) : entry = (key, value) ∨ entry ∈ entries := by
  induction entries with
  | nil => simp_all [insert]
  | cons head rest ih =>
    obtain ⟨k, v⟩ := head
    unfold insert at h
    split at h
    · simpa using h
    · split at h
      · rcases List.mem_cons.1 h with h | h
        · exact .inl h
        · exact .inr (List.mem_cons_of_mem _ h)
      · rcases List.mem_cons.1 h with h | h
        · exact .inr (h ▸ List.mem_cons_self)
        · rcases ih h with h | h
          · exact .inl h
          · exact .inr (List.mem_cons_of_mem _ h)

theorem sorted_insert {key : String} {value : α} {entries : List (String × α)}
    (h : Sorted entries) : Sorted (insert key value entries) := by
  induction entries with
  | nil => simp [insert, Sorted]
  | cons head rest ih =>
    obtain ⟨k, v⟩ := head
    have hrest : Sorted rest := (List.pairwise_cons.1 h).2
    have hlt : ∀ entry ∈ rest, k < entry.1 := (List.pairwise_cons.1 h).1
    unfold insert
    split
    · rename_i hk
      refine List.pairwise_cons.2 ⟨fun entry hentry => ?_, h⟩
      rcases List.mem_cons.1 hentry with rfl | hentry
      · exact hk
      · exact String.lt_trans hk (hlt entry hentry)
    · split
      · rename_i heq
        subst heq
        exact List.pairwise_cons.2 ⟨hlt, hrest⟩
      · rename_i hnlt hne
        refine List.pairwise_cons.2 ⟨fun entry hentry => ?_, ih hrest⟩
        rcases mem_insert hentry with rfl | hentry
        · exact Decidable.byContradiction fun hge =>
            hne (String.le_antisymm (String.not_lt.1 hge) (String.not_lt.1 hnlt))
        · exact hlt entry hentry

theorem sorted_erase {key : String} {entries : List (String × α)} (h : Sorted entries) :
    Sorted (erase key entries) :=
  List.Pairwise.filter _ h

theorem sorted_map (f : α → β) {entries : List (String × α)} (h : Sorted entries) :
    Sorted (entries.map fun entry => (entry.1, f entry.2)) := by
  unfold Sorted
  rw [List.pairwise_map]
  exact h

theorem sorted_ofList (entries : List (String × α)) : Sorted (ofList entries) := by
  unfold ofList
  suffices ∀ acc : List (String × α), Sorted acc →
      Sorted (entries.foldl (fun acc entry => insert entry.1 entry.2 acc) acc) from
    this [] List.Pairwise.nil
  induction entries with
  | nil => exact fun _ h => h
  | cons head rest ih => exact fun acc h => ih _ (sorted_insert h)

end Entries

/-- A finite map from texts to values. -/
structure Dict (α : Type u) where
  entries : List (String × α)
  sorted : Entries.Sorted entries

namespace Dict

variable {α : Type u} {β : Type v}

instance [DecidableEq α] : DecidableEq (Dict α) := fun a b =>
  decidable_of_iff (a.entries = b.entries)
    ⟨fun h => by cases a; cases b; simp_all, fun h => h ▸ rfl⟩

instance [Repr α] : Repr (Dict α) := ⟨fun d n => reprPrec d.entries n⟩

/-- The map without bindings. -/
def empty : Dict α := ⟨[], List.Pairwise.nil⟩

instance : Inhabited (Dict α) := ⟨empty⟩

instance : EmptyCollection (Dict α) := ⟨empty⟩

/-- The map of a list of bindings; of several bindings of one key the last stands. -/
def ofList (entries : List (String × α)) : Dict α :=
  ⟨Entries.ofList entries, Entries.sorted_ofList entries⟩

/-- The bindings in increasing key order. -/
def toList (d : Dict α) : List (String × α) := d.entries

def isEmpty (d : Dict α) : Bool := d.entries.isEmpty

def size (d : Dict α) : Nat := d.entries.length

def get? (d : Dict α) (key : String) : Option α := Entries.find? key d.entries

def contains (d : Dict α) (key : String) : Bool := (d.get? key).isSome

/-- Binds a key, replacing its binding. -/
def insert (d : Dict α) (key : String) (value : α) : Dict α :=
  ⟨Entries.insert key value d.entries, Entries.sorted_insert d.sorted⟩

def erase (d : Dict α) (key : String) : Dict α :=
  ⟨Entries.erase key d.entries, Entries.sorted_erase d.sorted⟩

/-- The keys in increasing order. -/
def keys (d : Dict α) : List String := d.entries.map Prod.fst

/-- The values in the order of their keys. -/
def values (d : Dict α) : List α := d.entries.map Prod.snd

/-- The bindings whose key and value satisfy `p`. -/
def filter (p : String → α → Bool) (d : Dict α) : Dict α :=
  ⟨d.entries.filter fun entry => p entry.1 entry.2, List.Pairwise.filter _ d.sorted⟩

/-- Every value replaced, the keys kept. -/
def map (f : α → β) (d : Dict α) : Dict β :=
  ⟨d.entries.map fun entry => (entry.1, f entry.2), Entries.sorted_map f d.sorted⟩

/-- The bindings of `added` take precedence over those of `base`. -/
def override (base added : Dict α) : Dict α :=
  added.entries.foldl (fun acc entry => acc.insert entry.1 entry.2) base

end Dict

end Orchestrator
