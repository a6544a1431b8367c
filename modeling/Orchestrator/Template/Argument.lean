import Orchestrator.Template.Operation
import Orchestrator.Template.Token

/-!
The arguments of filters, tests and functions.

A tool takes its arguments one after the other, each converted to what it needs, and refuses those
that are left. Named arguments are a map behind the others for a tool that does not ask for them.
-/

namespace Orchestrator

namespace Template

/-- The arguments of a call. -/
structure Args where
  given : List Value
  named : Option (List (String × Value))
  deriving Inhabited

/-- A reader of arguments. -/
abbrev Take := StateT Args (Except Fault)

/-- A tool that computes a value from its arguments. -/
abbrev Tool := Args → Except Fault Value

namespace Take

/-- The next argument, if there is one. -/
def next? : Take (Option Value) := do
  let args ← get
  match args.given, args.named with
  | v :: rest, _ =>
    set { args with given := rest }
    pure (some v)
  | [], some entries =>
    set { args with named := none }
    pure (some (.ofNamed entries))
  | [], none => pure none

def value : Take Value := do
  match ← next? with
  | some v => pure v
  | none => throw .missingArgument

/-- An argument as text. -/
def text : Take String := return (← value).text

def asInt (v : Value) : Except Fault Int :=
  match v.asExactInt? with
  | some n => if -(Int.pow 2 63) ≤ n ∧ n < Int.pow 2 63 then .ok n else .error .invalidOperation
  | none => .error .invalidOperation

def asCount (v : Value) : Except Fault Nat :=
  match v.count? with
  | some n => .ok n
  | none => .error .invalidOperation

def asFlag : Value → Except Fault Bool
  | .bool b => .ok b
  | _ => .error .invalidOperation

/-- An argument as an integer. -/
def int : Take Int := do asInt (← value)

/-- An argument as a count. -/
def count : Take Nat := do asCount (← value)

/-- An argument that may be left out; nothing and none stand for leaving it out. -/
def optional {α : Type} (convert : Value → Except Fault α) : Take (Option α) := do
  match ← next? with
  | none | some .undefined | some .none => pure none
  | some v => some <$> convert v

def text? : Take (Option String) := optional fun v => .ok v.text

def flag? : Take (Option Bool) := optional asFlag

/-- All arguments that are left. -/
def rest : Take (List Value) := do
  let args ← get
  set (⟨[], none⟩ : Args)
  pure (args.given ++ (args.named.map Value.ofNamed).toList)

/-- The named arguments, of which only those with the given names are accepted. -/
def named (known : List String) : Take (List (String × Value)) := do
  let args ← get
  match args.given, args.named with
  | [], some entries =>
    set { args with named := none }
    if entries.all fun entry => known.contains entry.1 then pure entries
    else throw .tooManyArguments
  | _, _ => pure []

end Take

/-- The tool that takes its arguments as `take` does. -/
def Tool.of (take : Take (Except Fault Value)) : Tool := fun args => do
  let (result, left) ← take.run args
  if left.given.isEmpty ∧ left.named.isNone then result else throw .tooManyArguments

/-- A named argument that is a truth value. -/
def flagOf (named : List (String × Value)) (name : String) : Except Fault Bool :=
  match named.lookup name with
  | none | some .undefined | some .none => .ok false
  | some v => Take.asFlag v

/-- A named argument that is a text. -/
def textOf? (named : List (String × Value)) (name : String) : Except Fault (Option String) :=
  match named.lookup name with
  | none | some .undefined | some .none => .ok none
  | some (.str s _) => .ok (some s)
  | some _ => .error .invalidOperation

namespace Value

/-- The elements of a value that can be walked through. -/
def walk (v : Value) : Except Fault (List Value) :=
  match v.elements? with
  | some items => .ok items
  | Option.none => .error .invalidOperation

/-- The part of a value under a key; nothing has no parts. -/
def part (v key : Value) : Except Fault Value :=
  match v.item? key with
  | some part => .ok part
  | Option.none => if v.isUndefined then .error .undefinedValue else .ok undefined

/-- The part of a value at the end of a path with dots, whose numbers are indices. -/
def partAt (v : Value) (path : String) : Except Fault Value :=
  (Text.splitAt '.' path.toList).foldlM (fun v step =>
    let key : Value :=
      match if step.isEmpty then Option.none else Text.digitsIn? 10 step with
      | some n => .int n
      | Option.none => .ofText (String.ofList step)
    v.part key) v

end Value

end Template

end Orchestrator
