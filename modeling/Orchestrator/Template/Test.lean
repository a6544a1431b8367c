import Orchestrator.Template.Filter

/-!
The tests of the template language, except those that look for filters and tests.
-/

namespace Orchestrator

namespace Template

namespace Test

/-- A test of one value. -/
def onValue (f : Value → Bool) : Tool := .of do
  let v ← Take.value
  pure (.ok (.bool (f v)))

/-- A test of a value against another. -/
def onPair (f : Value → Value → Bool) : Tool := .of do
  let v ← Take.value
  let other ← Take.value
  pure (.ok (.bool (f v other)))

/-- A test of text. -/
def onText (f : List Char → Bool) : Tool := .of do
  let s ← Take.text
  pure (.ok (.bool (f s.toList)))

/-- A test of text against another. -/
def onTexts (f : List Char → List Char → Bool) : Tool := .of do
  let s ← Take.text
  let other ← Take.text
  pure (.ok (.bool (f s.toList other.toList)))

/-- A test of a whole number; what is none fails it. -/
def onInt (f : Int → Bool) : Tool := onValue fun v => (v.asExactInt?.map f).getD false

def isDivisible (v other : Value) : Bool :=
  match Value.pair? false v other with
  | some (.ints m n) => n != 0 && m % n == 0
  | some (.floats x y) => (x.rem y).isZero
  | _ => false

def isInteger : Value → Bool
  | .int _ => true
  | _ => false

def isSame (v other : Value) : Bool :=
  v.kind == other.kind && isInteger v == isInteger other && v.isEqual other

/-- The tests that need nothing but their arguments. -/
def plain : List (String × Tool) := [
  ("undefined", onValue Value.isUndefined),
  ("defined", onValue fun v => !v.isUndefined),
  ("none", onValue fun v => v.kind == .none),
  ("safe", onValue fun | .str _ safe => safe | _ => false),
  ("escaped", onValue fun | .str _ safe => safe | _ => false),
  ("boolean", onValue fun v => v.kind == .bool),
  ("odd", onInt fun n => n % 2 != 0),
  ("even", onInt fun n => n % 2 == 0),
  ("divisibleby", onPair isDivisible),
  ("number", onValue fun v => v.kind == .number),
  ("integer", onValue isInteger),
  ("int", onValue isInteger),
  ("float", onValue fun | .float _ => true | _ => false),
  ("string", onValue fun v => v.kind == .text),
  ("sequence", onValue fun v => v.kind == .list),
  ("iterable", onValue fun v => v.elements?.isSome),
  ("mapping", onValue fun v => v.kind == .map),
  ("startingwith", onTexts fun s other => other.isPrefixOf s),
  ("endingwith", onTexts fun s other => other.isSuffixOf s),
  ("lower", onText fun s => s.all Text.isLower),
  ("upper", onText fun s => s.all Text.isUpper),
  ("sameas", onPair isSame),
  ("eq", onPair Value.isEqual),
  ("equalto", onPair Value.isEqual),
  ("==", onPair Value.isEqual),
  ("ne", onPair fun v other => !v.isEqual other),
  ("!=", onPair fun v other => !v.isEqual other),
  ("lt", onPair fun v other => v.order other == .lt),
  ("lessthan", onPair fun v other => v.order other == .lt),
  ("<", onPair fun v other => v.order other == .lt),
  ("le", onPair fun v other => v.order other != .gt),
  ("<=", onPair fun v other => v.order other != .gt),
  ("gt", onPair fun v other => v.order other == .gt),
  ("greaterthan", onPair fun v other => v.order other == .gt),
  (">", onPair fun v other => v.order other == .gt),
  ("ge", onPair fun v other => v.order other != .lt),
  (">=", onPair fun v other => v.order other != .lt),
  ("in", .of do
    let v ← Take.value
    let container ← Take.value
    pure ((container.contains v).map .bool)),
  ("true", onValue fun | .bool b => b | _ => false),
  ("false", onValue fun | .bool b => !b | _ => false)]

end Test

end Template

end Orchestrator
