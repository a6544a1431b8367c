import Orchestrator.Dict
import Orchestrator.Number.Binary64

/-!
JSON values. Integers and binary floating point numbers are kept apart, and the entries of an
object stand in key order with each key once, so that equal documents are equal values.
-/

namespace Orchestrator

/-- A JSON number: an integer that fits 64 bits, or a binary floating point number. -/
inductive Number where
  | int (n : Int)
  | float (x : Binary64)
  deriving DecidableEq, Repr, Inhabited

/-- A JSON document. -/
inductive Json where
  | null
  | bool (b : Bool)
  | num (n : Number)
  | str (s : String)
  | arr (items : List Json)
  | obj (entries : List (String × Json))
  deriving Repr, Inhabited

namespace Json

mutual

/-- Decides equality of two documents. -/
def decEq : (a b : Json) → Decidable (a = b)
  | .null, .null => isTrue rfl
  | .bool a, .bool b => decidable_of_iff (a = b) (by simp)
  | .num a, .num b => decidable_of_iff (a = b) (by simp)
  | .str a, .str b => decidable_of_iff (a = b) (by simp)
  | .arr a, .arr b =>
    have := decEqList a b
    decidable_of_iff (a = b) (by simp)
  | .obj a, .obj b =>
    have := decEqEntries a b
    decidable_of_iff (a = b) (by simp)
  | .null, .bool _ | .null, .num _ | .null, .str _ | .null, .arr _ | .null, .obj _
  | .bool _, .null | .bool _, .num _ | .bool _, .str _ | .bool _, .arr _ | .bool _, .obj _
  | .num _, .null | .num _, .bool _ | .num _, .str _ | .num _, .arr _ | .num _, .obj _
  | .str _, .null | .str _, .bool _ | .str _, .num _ | .str _, .arr _ | .str _, .obj _
  | .arr _, .null | .arr _, .bool _ | .arr _, .num _ | .arr _, .str _ | .arr _, .obj _
  | .obj _, .null | .obj _, .bool _ | .obj _, .num _ | .obj _, .str _ | .obj _, .arr _ =>
    isFalse (by simp)

/-- Decides equality of two arrays' elements. -/
def decEqList : (a b : List Json) → Decidable (a = b)
  | [], [] => isTrue rfl
  | [], _ :: _ | _ :: _, [] => isFalse (by simp)
  | x :: xs, y :: ys =>
    have := decEq x y
    have := decEqList xs ys
    decidable_of_iff (x = y ∧ xs = ys) (by simp)

/-- Decides equality of two objects' entries. -/
def decEqEntries : (a b : List (String × Json)) → Decidable (a = b)
  | [], [] => isTrue rfl
  | [], _ :: _ | _ :: _, [] => isFalse (by simp)
  | (k, x) :: xs, (l, y) :: ys =>
    have := decEq x y
    have := decEqEntries xs ys
    decidable_of_iff ((k = l ∧ x = y) ∧ xs = ys) (by simp)

end

instance : DecidableEq Json := decEq

/-- An object with the given bindings, of which the last stands where a key is repeated. -/
def object (entries : List (String × Json)) : Json := .obj (Entries.ofList entries)

/-- An integer document. -/
def int (n : Int) : Json := .num (.int n)

/-- A list of texts. -/
def strings (items : List String) : Json := .arr (items.map .str)

/-- The object of a text dictionary. -/
def ofTexts (d : Dict String) : Json := .obj (d.toList.map fun (k, v) => (k, .str v))

/-- The value under a key of an object, and `null` where there is none. -/
def get (j : Json) (key : String) : Json :=
  match j with
  | .obj entries => (Entries.find? key entries).getD .null
  | _ => .null

def isNull : Json → Bool
  | .null => true
  | _ => false

end Json

end Orchestrator
