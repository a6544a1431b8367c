import Orchestrator.Json.Basic
import Orchestrator.Number.Layout
import Orchestrator.Template.Syntax
import Orchestrator.Text.Quoted

/-!
The values of templates, their order and their text.

There are two texts of a value. `text` is what is printed: texts as they are, and numbers that never
use an exponent. `debug` is what a value looks like inside a list or a map: texts quoted, and very
large or small numbers with an exponent.
-/

namespace Orchestrator

namespace Template

/-- A value of the template language. -/
inductive Value where
  | undefined
  | none
  | bool (b : Bool)
  | int (n : Int)
  | float (x : Binary64)
  /-- A text; a safe one is not escaped again. -/
  | str (s : String) (safe : Bool)
  | list (items : List Value)
  /-- Elements that are produced on demand, such as those of a range. They do not count as a list. -/
  | series (items : List Value)
  /-- A map, in the order of its keys. -/
  | map (entries : List (Value × Value))
  /-- The state of a loop, by its place in the store. -/
  | loopState (place : Nat)
  /-- A set of attributes that can be assigned, by its place in the store. -/
  | record (place : Nat)
  | function (name : String)
  /-- A macro, with the place in the store of the variables it was defined among. -/
  | macroValue (name : String) (params : Params) (body : List Stmt) (scope : Nat)
  deriving Repr, Inhabited

/-- The kinds of values, in their order. -/
inductive Kind where
  | undefined
  | none
  | bool
  | number
  | text
  | list
  | map
  | series
  | plain
  deriving DecidableEq, Repr, Inhabited

namespace Kind

/-- The place of a kind in the order. -/
def rank : Kind → Nat
  | undefined => 0
  | none => 1
  | bool => 2
  | number => 3
  | text => 4
  | list => 5
  | map => 6
  | series => 7
  | plain => 8

end Kind

/-- The bounds of integer arithmetic. -/
def minInt : Int := -(Int.pow 2 127)

def maxInt : Int := Int.pow 2 127 - 1

def fitsInt (n : Int) : Bool := minInt ≤ n && n ≤ maxInt

namespace Value

def ofText (s : String) : Value := .str s false

def kind : Value → Kind
  | undefined => .undefined
  | none => .none
  | bool _ => .bool
  | int _ | float _ => .number
  | str _ _ => .text
  | list _ => .list
  | series _ => .series
  | map _ | record _ | loopState _ => .map
  | function _ | macroValue .. => .plain

def ofLiteral : Literal → Value
  | .none => none
  | .bool b => bool b
  | .int n => int n
  | .float x => float x
  | .str s => ofText s

mutual

/-- A document as a value. -/
def ofJson : Json → Value
  | .null => none
  | .bool b => bool b
  | .num (.int n) => int n
  | .num (.float x) => float x
  | .str s => ofText s
  | .arr items => list (ofItems items)
  | .obj entries => map (ofEntries entries)

/-- The values of an array's elements. -/
def ofItems : List Json → List Value
  | [] => []
  | j :: rest => ofJson j :: ofItems rest

/-- The values of an object's entries. -/
def ofEntries : List (String × Json) → List (Value × Value)
  | [] => []
  | (k, j) :: rest => (ofText k, ofJson j) :: ofEntries rest

end

/-- Whether a value counts as true: no number zero, and nothing that is empty or missing. -/
def isTrue : Value → Bool
  | undefined | none => false
  | bool b => b
  | int n => n != 0
  | float x => !x.isZero
  | str s _ => !s.isEmpty
  | list items | series items => !items.isEmpty
  | map entries => !entries.isEmpty
  | loopState _ | record _ | function _ | macroValue .. => true

def isUndefined : Value → Bool
  | undefined => true
  | _ => false

/-- The text of a value that is one. -/
def asText? : Value → Option String
  | str s _ => some s
  | _ => Option.none

/-- The value as a whole number, where it is one; booleans are zero and one. -/
def asInt? : Value → Option Int
  | bool b => some (if b then 1 else 0)
  | int n => some n
  | float x => if x.isWhole then some x.truncate else Option.none
  | _ => Option.none

/-- The value as a whole number that is held exactly, without counting floating point numbers. -/
def asExactInt? : Value → Option Int
  | float x =>
    if x.isWhole ∧ fitsInt x.truncate then some x.truncate else Option.none
  | v => v.asInt?.filter fitsInt

/-- The value as a floating point number. Unless `lossy`, integers have to be exact. -/
def asFloat? (lossy : Bool) : Value → Option Binary64
  | bool b => some (Binary64.ofInt (if b then 1 else 0))
  | int n =>
    let x := Binary64.ofInt n
    if lossy ∨ x.truncate = n then some x else Option.none
  | float x => some x
  | _ => Option.none

/-- Two values brought to one type. -/
inductive Pair where
  | ints (a b : Int)
  | floats (x y : Binary64)
  | texts (s t : String)

/-- Brings two values to one type, where there is one for both. -/
def pair? (lossy : Bool) : Value → Value → Option Pair
  | str s _, str t _ => some (.texts s t)
  | float x, b => (b.asFloat? lossy).map (.floats x)
  | a, float y => (a.asFloat? lossy).map (.floats · y)
  | a, b =>
    match a.asExactInt?, b.asExactInt? with
    | some m, some n => some (.ints m n)
    | _, _ => Option.none

mutual

/-- The order of values: numbers by size, texts by their characters, else by kind first. -/
def order (a b : Value) : Ordering :=
  match a, b with
  | list xs, list ys | list xs, series ys | series xs, list ys | series xs, series ys =>
    if a.kind = b.kind then orderItems xs ys else compare a.kind.rank b.kind.rank
  | map xs, map ys => orderEntries xs ys
  | record m, record n | loopState m, loopState n => compare m n
  | function f, function g => compare f g
  | macroValue f .., macroValue g .. => compare f g
  | a, b =>
    match pair? false a b with
    | some (.ints m n) => compare m n
    | some (.floats x y) => x.compare y
    | some (.texts s t) => compare s t
    | Option.none => compare a.kind.rank b.kind.rank

/-- The order of lists, by their first difference. -/
def orderItems : List Value → List Value → Ordering
  | [], [] => .eq
  | [], _ :: _ => .lt
  | _ :: _, [] => .gt
  | x :: xs, y :: ys =>
    match order x y with
    | .eq => orderItems xs ys
    | o => o

/-- The order of entries, by key and then by value. -/
def orderEntries : List (Value × Value) → List (Value × Value) → Ordering
  | [], [] => .eq
  | [], _ :: _ => .lt
  | _ :: _, [] => .gt
  | (k, x) :: xs, (l, y) :: ys =>
    match order k l with
    | .eq =>
      match order x y with
      | .eq => orderEntries xs ys
      | o => o
    | o => o

end

mutual

/-- Whether two values are equal; numbers by their value, lists and maps by their parts. -/
def isEqual (a b : Value) : Bool :=
  match a, b with
  | list xs, list ys | list xs, series ys | series xs, list ys | series xs, series ys =>
    equalItems xs ys
  | map xs, map ys => equalEntries xs ys
  | record m, record n | loopState m, loopState n => m == n
  | function f, function g => f == g
  | macroValue f .., macroValue g .. => f == g
  | undefined, undefined | none, none => true
  | a, b =>
    match pair? false a b with
    | some (.ints m n) => m == n
    | some (.floats x y) => x.isEqual y
    | some (.texts s t) => s == t
    | Option.none => false

/-- Whether two lists are equal. -/
def equalItems : List Value → List Value → Bool
  | [], [] => true
  | x :: xs, y :: ys => isEqual x y && equalItems xs ys
  | _, _ => false

/-- Whether the entries of two maps are equal. -/
def equalEntries : List (Value × Value) → List (Value × Value) → Bool
  | [], [] => true
  | (k, x) :: xs, (l, y) :: ys => order k l == .eq && isEqual x y && equalEntries xs ys
  | _, _ => false

end

/-- The value under a key of a map. -/
def lookup (key : Value) : List (Value × Value) → Option Value
  | [] => Option.none
  | (k, v) :: rest => if k.order key == .eq then some v else lookup key rest

/-- Puts an entry into a map, in place of one with an equal key. -/
def insert (key value : Value) : List (Value × Value) → List (Value × Value)
  | [] => [(key, value)]
  | (k, v) :: rest =>
    match key.order k with
    | .lt => (key, value) :: (k, v) :: rest
    | .eq => (k, value) :: rest
    | .gt => (k, v) :: insert key value rest

/-- The map with the given entries, of which the last stands where a key is repeated. -/
def ofPairs (entries : List (Value × Value)) : Value :=
  map (entries.foldl (fun acc (k, v) => insert k v acc) [])

/-- The map of named values. -/
def ofNamed (entries : List (String × Value)) : Value :=
  ofPairs (entries.map fun (k, v) => (ofText k, v))

mutual

/-- What the value looks like inside a list or a map. -/
def debug : Value → String
  | undefined => "undefined"
  | none => "None"
  | bool b => if b then "True" else "False"
  | int n => decimalText n
  | float x => x.general
  | str s _ => Text.quoted s
  | list items | series items => "[" ++ ", ".intercalate (debugItems items) ++ "]"
  | map entries => "\x7b" ++ ", ".intercalate (debugEntries entries) ++ "\x7d"
  | loopState _ => "<loop>"
  | record _ => "<namespace>"
  | function name => "<function " ++ name ++ ">"
  | macroValue name .. => "<macro " ++ name ++ ">"

/-- What the elements of a list look like. -/
def debugItems : List Value → List String
  | [] => []
  | v :: rest => debug v :: debugItems rest

/-- What the entries of a map look like. -/
def debugEntries : List (Value × Value) → List String
  | [] => []
  | (k, v) :: rest => (debug k ++ ": " ++ debug v) :: debugEntries rest

end

/-- The text of a value inside other text. -/
def text : Value → String
  | undefined => ""
  | str s _ => s
  | float x => x.plain
  | v => v.debug

/-- The text that a value is printed as: booleans in lower case, and none as nothing. -/
def printed : Value → String
  | bool b => if b then "true" else "false"
  | none => ""
  | v => v.text

/-- How far a line of nested text is set in. -/
def setIn (depth : Nat) : String := String.ofList (List.replicate (4 * depth) ' ')

mutual

/-- What the value looks like with each element on a line of its own. -/
def pretty : Nat → Value → String
  | depth, list items | depth, series items =>
    if items.isEmpty then "[]"
    else "[\n" ++ prettyItems (depth + 1) items ++ setIn depth ++ "]"
  | depth, map entries =>
    if entries.isEmpty then "\x7b\x7d"
    else "\x7b\n" ++ prettyEntries (depth + 1) entries ++ setIn depth ++ "\x7d"
  | _, v => v.debug

/-- The lines of a list's elements. -/
def prettyItems : Nat → List Value → String
  | _, [] => ""
  | depth, v :: rest => setIn depth ++ pretty depth v ++ ",\n" ++ prettyItems depth rest

/-- The lines of a map's entries. -/
def prettyEntries : Nat → List (Value × Value) → String
  | _, [] => ""
  | depth, (k, v) :: rest =>
    setIn depth ++ pretty depth k ++ ": " ++ pretty depth v ++ ",\n" ++ prettyEntries depth rest

end

/-- The elements that a value can be walked through: those of a list, the keys of a map, the
characters of a text. -/
def elements? : Value → Option (List Value)
  | undefined | none => some []
  | str s _ => some (s.toList.map fun c => ofText (String.singleton c))
  | list items | series items => some items
  | map entries => some (entries.map Prod.fst)
  | _ => Option.none

/-- The elements of a list or the keys of a map, but not the characters of a text. -/
def parts? : Value → Option (List Value)
  | list items | series items => some items
  | map entries => some (entries.map Prod.fst)
  | _ => Option.none

/-- How many characters, elements or entries a value has. -/
def length? : Value → Option Nat
  | str s _ => some s.length
  | list items | series items => some items.length
  | map entries => some entries.length
  | _ => Option.none

/-- The place that an index stands for; a negative one counts from the end. -/
def place? (index : Int) (length : Nat) : Option Nat :=
  if 0 ≤ index then some index.toNat
  else if index.natAbs ≤ length then some (length - index.natAbs) else Option.none

/-- The part of a value under a key: an entry of a map, or an element of a list or a text. -/
def item? (target key : Value) : Option Value :=
  match target with
  | map entries => lookup key entries
  | list items => do
    let index ← key.asInt?
    let place ← place? index items.length
    items[place]?
  | series items => do
    let index ← key.asInt?
    if 0 ≤ index then items[index.toNat]? else Option.none
  | str s _ => do
    let index ← key.asInt?
    let place ← place? index s.length
    let c ← s.toList[place]?
    pure (ofText (String.singleton c))
  | _ => Option.none

end Value

end Template

end Orchestrator
