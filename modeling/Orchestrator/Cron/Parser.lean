import Orchestrator.Cron.Schedule

/-!
Reading a schedule from `minute hour day-of-month month day-of-week`, or from a macro such as
`@daily`.

A field is a list of parts separated by commas. A part is `*`, `?`, a value or a range of two
values, and may have a step behind a slash; one value with a step runs to the end of the range.
-/

namespace Orchestrator

namespace Cron

/-- Why an expression is refused. -/
inductive Error where
  | fieldCount (found : Nat)
  | invalidField (field : String) (value : String) (reason : String)
  | unknownDescriptor (name : String)
  deriving DecidableEq, Repr, Inhabited

/-- A text between single quotes. -/
def inQuotes (s : String) : String := "'" ++ s ++ "'"

def Error.message : Error → String
  | fieldCount found => "expected 5 fields, found " ++ decimalText found
  | invalidField field value reason =>
    "invalid " ++ field ++ " field " ++ inQuotes value ++ ": " ++ reason
  | unknownDescriptor name => "unknown descriptor " ++ inQuotes name

/-- The numbers below this bound can be written in a field. -/
def numberBound : Nat := Nat.pow 2 32

/-- Reads a number: decimal digits, with an optional plus sign. -/
def number? (cs : List Char) : Option Nat :=
  let digits := match cs with
    | '+' :: rest => rest
    | _ => cs
  if digits.isEmpty ∨ !digits.all Char.isDigit then none
  else
    let n := Text.digitsValue digits
    if n < numberBound then some n else none

/-- Reads a number or one of the field's names, in any case of letters. -/
def value (field : Field) (cs : List Char) : Except String Nat :=
  match number? cs with
  | some n => .ok n
  | none =>
    match field.names.findIdx? fun name => name.toList == cs.map Char.toUpper with
    | some position => .ok (position + field.namedFrom)
    | none => .error ("unknown value " ++ inQuotes (String.ofList cs))

/-- Reads a step. -/
def step (cs : List Char) : Except String Nat :=
  match number? cs with
  | none => .error ("bad step " ++ inQuotes (String.ofList cs))
  | some 0 => .error "step must be positive"
  | some n => .ok n

def isWildcard (cs : List Char) : Bool := cs == ['*'] || cs == ['?']

/-- Reads the values that a part runs over, given whether it has a step. -/
def span (field : Field) (stepped : Bool) (cs : List Char) : Except String (Nat × Nat) :=
  if isWildcard cs then .ok (field.low, field.high)
  else
    match Text.cutAt? '-' cs with
    | some (first, last) => do
      let first ← value field first
      let last ← value field last
      pure (first, last)
    | none => do
      let first ← value field cs
      pure (first, if stepped then field.high else first)

/-- Refuses values outside the field's range and ranges that run backwards. -/
def checked (field : Field) (p : Part) : Except String Part :=
  if field.low ≤ p.first ∧ p.last ≤ field.high ∧ p.first ≤ p.last then .ok p
  else
    .error ("range " ++ decimalText p.first ++ "-" ++ decimalText p.last ++ " outside "
      ++ decimalText field.low ++ "-" ++ decimalText field.high)

/-- Reads one part. -/
def part (field : Field) (cs : List Char) : Except String Part :=
  match Text.cutAt? '/' cs with
  | some (range, steps) => do
    let n ← step steps
    let (first, last) ← span field true range
    checked field ⟨first, last, n⟩
  | none => do
    let (first, last) ← span field false cs
    checked field ⟨first, last, 1⟩

/-- Reads the parts of a field; the first bad one is reported. -/
def parts (field : Field) : List (List Char) → Except String (List Part)
  | [] => .ok []
  | cs :: rest => do
    let p ← part field cs
    let ps ← parts field rest
    pure (p :: ps)

/-- Reads a field as the values it holds. -/
def fieldValues (field : Field) (cs : List Char) : Except Error (List Nat) :=
  match parts field (Text.splitAt ',' cs) with
  | .ok ps => .ok (field.valuesOf ps)
  | .error reason => .error (.invalidField field.name (String.ofList cs) reason)

/-- Counts Sunday as zero only. -/
def foldSunday (days : List Nat) : List Nat :=
  if days.contains 7 then 0 :: days.filter fun day => day != 0 && day != 7 else days

/-- Whether a field leaves its value open. -/
def isOpen (cs : List Char) : Bool := cs.head? == some '*' || cs == ['?']

/-- The expression that a macro stands for. -/
def expand (s : String) : Except Error String :=
  match s with
  | "@yearly" | "@annually" => .ok "0 0 1 1 *"
  | "@monthly" => .ok "0 0 1 * *"
  | "@weekly" => .ok "0 0 * * 0"
  | "@daily" | "@midnight" => .ok "0 0 * * *"
  | "@hourly" => .ok "0 * * * *"
  | _ => if s.toList.head? = some '@' then .error (.unknownDescriptor s) else .ok s

/-- Reads the five fields. The day of the week is judged first, then the others in order. -/
def ofFields : List (List Char) → Except Error Schedule
  | [minute, hour, dayOfMonth, month, weekday] => do
    let weekdays ← fieldValues .weekday weekday
    let minutes ← fieldValues .minute minute
    let hours ← fieldValues .hour hour
    let daysOfMonth ← fieldValues .dayOfMonth dayOfMonth
    let months ← fieldValues .month month
    pure ⟨minutes, hours, daysOfMonth, months, foldSunday weekdays, isOpen dayOfMonth,
      isOpen weekday⟩
  | fields => .error (.fieldCount fields.length)

/-- Reads an expression. -/
def parse (s : String) : Except Error Schedule := do
  let expression ← expand (Text.trim s)
  ofFields (Text.wordsOf expression.toList)

end Cron

end Orchestrator
