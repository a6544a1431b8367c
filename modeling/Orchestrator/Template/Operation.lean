import Orchestrator.Template.Fault
import Orchestrator.Template.Value

/-!
The operators of the template language.

Integers are computed exactly and must stay within 128 bits; a fault is reported where they do not.
Division of integers leaves a remainder that is never negative.
-/

namespace Orchestrator

namespace Template

namespace Value

/-- The result of integer arithmetic, if it is within bounds. -/
def ofInt? (n : Int) : Except Fault Value :=
  if fitsInt n then .ok (int n) else .error .invalidOperation

/-- Applies an operation to two numbers. -/
def arith (onInts : Int → Int → Except Fault Value) (onFloats : Binary64 → Binary64 → Binary64)
    (a b : Value) : Except Fault Value :=
  match pair? true a b with
  | some (.ints m n) => onInts m n
  | some (.floats x y) => .ok (float (onFloats x y))
  | _ => .error .invalidOperation

/-- The elements of a list or a series. -/
def listed? : Value → Option (List Value)
  | list items | series items => some items
  | _ => Option.none

/-- The value as a count. -/
def count? (v : Value) : Option Nat :=
  match v.asExactInt? with
  | some n => if 0 ≤ n ∧ n < Int.pow 2 64 then some n.toNat else Option.none
  | Option.none => Option.none

def add (a b : Value) : Except Fault Value :=
  match a.listed?, b.listed? with
  | some xs, some ys => .ok (series (xs ++ ys))
  | _, _ =>
    match a, b with
    | str s _, str t _ => .ok (ofText (s ++ t))
    | a, b => arith (fun m n => ofInt? (m + n)) Binary64.add a b

def sub : Value → Value → Except Fault Value :=
  arith (fun m n => ofInt? (m - n)) Binary64.sub

/-- A text repeated. -/
def repeatText (s : String) (n : Nat) : String :=
  String.join (List.replicate n s)

/-- The product of numbers, or a text or a list repeated. -/
def mul (a b : Value) : Except Fault Value :=
  match a, b with
  | str s _, n | n, str s _ =>
    match n.count? with
    | some n => .ok (ofText (repeatText s n))
    | Option.none => .error .invalidOperation
  | a, b =>
    match a.listed?, b.listed? with
    | some items, _ => repeated items b
    | _, some items => repeated items a
    | _, _ => arith (fun m n => ofInt? (m * n)) Binary64.mul a b
where
  /-- A list repeated. -/
  repeated (items : List Value) (n : Value) : Except Fault Value :=
    match n.count? with
    | some n => .ok (series (List.replicate n items).flatten)
    | Option.none => .error .invalidOperation

def div (a b : Value) : Except Fault Value :=
  match a.asFloat? true, b.asFloat? true with
  | some x, some y => .ok (float (x.div y))
  | _, _ => .error .invalidOperation

/-- The whole part of a quotient. -/
def floorDiv : Value → Value → Except Fault Value :=
  arith (fun m n => if n = 0 then .error .invalidOperation else ofInt? (m / n)) Binary64.divEuclid

def rem : Value → Value → Except Fault Value :=
  arith (fun m n => if n = 0 then .error .invalidOperation else ofInt? (m % n)) Binary64.rem

/-- The largest exponent of an integer whose size is at least two that can stay within bounds. -/
def maxExponent : Nat := 128

def pow : Value → Value → Except Fault Value :=
  arith (fun m n =>
    if n < 0 ∨ Int.pow 2 32 ≤ n then .error .invalidOperation
    else if m.natAbs ≤ 1 then
      ofInt? (if n = 0 then 1 else if m = -1 then (if n % 2 = 0 then 1 else -1) else m)
    else if maxExponent < n then .error .invalidOperation
    else ofInt? (Int.pow m n.toNat)) Binary64.pow

def neg (v : Value) : Except Fault Value :=
  match v with
  | int n => ofInt? (-n)
  | float x => .ok (float x.neg)
  | _ => .error .invalidOperation

def concat (a b : Value) : Value := ofText (a.text ++ b.text)

/-- Whether a text occurs in another. -/
def hasText (part : List Char) : List Char → Bool
  | [] => part.isEmpty
  | c :: cs => part.isPrefixOf (c :: cs) || hasText part cs

/-- Whether a text contains a text, a list an element, or a map a key. -/
def contains (container v : Value) : Except Fault Bool :=
  match container with
  | undefined => .ok false
  | str s _ => .ok (hasText v.text.toList s.toList)
  | list items | series items => .ok (items.any fun item => item.isEqual v)
  | map entries => .ok (lookup v entries).isSome
  | record _ | loopState _ | function _ | macroValue .. => .ok false
  | _ => .error .invalidOperation

/-- A bound of a slice, if it is given. -/
def bound? : Value → Except Fault (Option Int)
  | none => .ok Option.none
  | v =>
    match v.asExactInt? with
    | some n =>
      if -(Int.pow 2 63) ≤ n ∧ n < Int.pow 2 63 then .ok (some n) else .error .invalidOperation
    | Option.none => .error .invalidOperation

/-- Every `step`-th element of a list, from the first on. The count says how many are passed over
before the next one. -/
def everyNth (step : Nat) : Nat → List α → List α
  | _, [] => []
  | 0, x :: xs => x :: everyNth step (step - 1) xs
  | k + 1, _ :: xs => everyNth step k xs

/-- A bound counted from the start. -/
def fromStart (length : Nat) (n : Int) : Nat :=
  if n < 0 then ((length : Int) + n).toNat else n.toNat

/-- The elements from `start` on up to `stop`. A negative step goes backwards. -/
def sliceOf (items : List α) (start stop : Option Int) (step : Int) : List α :=
  let length := items.length
  if 0 < step then
    let first := fromStart length (start.getD 0)
    let last := (stop.map (fromStart length)).getD length
    everyNth step.toNat 0 ((items.take last).drop first)
  else
    let first : Nat := match start with
      | some n => min (fromStart length n) (length - 1)
      | Option.none => length - 1
    let last : Nat := (stop.map (fromStart length)).getD 0
    let upward := (items.take (first + 1)).drop (if last = 0 then 0 else last + 1)
    everyNth (-step).toNat 0 upward.reverse

/-- A part of a list or a text. -/
def slice (v start stop step : Value) : Except Fault Value := do
  let start ← bound? start
  let stop ← bound? stop
  let step := (← bound? step).getD 1
  if step = 0 then throw .invalidOperation
  match v with
  | str s _ => pure (ofText (String.ofList (sliceOf s.toList start stop step)))
  | undefined | none => pure (list [])
  | list items | series items =>
    let part := sliceOf items start stop step
    pure (if 0 < step then series part else list part)
  | _ => throw .invalidOperation

/-- The result of an operator on its two operands. -/
def operate (op : BinaryOp) (a b : Value) : Except Fault Value :=
  match op with
  | .or => .ok (if a.isTrue then a else b)
  | .and => .ok (if a.isTrue then b else a)
  | .eq => .ok (bool (a.isEqual b))
  | .ne => .ok (bool !(a.isEqual b))
  | .lt => .ok (bool (a.order b == .lt))
  | .le => .ok (bool (a.order b != .gt))
  | .gt => .ok (bool (a.order b == .gt))
  | .ge => .ok (bool (a.order b != .lt))
  | .isIn => (contains b a).map bool
  | .add => add a b
  | .sub => sub a b
  | .mul => mul a b
  | .div => div a b
  | .floorDiv => floorDiv a b
  | .rem => rem a b
  | .pow => pow a b
  | .concat => .ok (concat a b)

end Value

end Template

end Orchestrator
