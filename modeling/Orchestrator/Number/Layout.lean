import Orchestrator.Number.Shortest

/-!
How numbers are written.

Three layouts of a binary64 number share the shortest digits: `plain` never uses an exponent,
`general` uses one outside `1e-4 ≤ |x| < 1e16`, and `compact` is the form written to JSON.
-/

namespace Orchestrator

/-- The decimal digits of a natural number. -/
def decimalDigits (n : Nat) : List Char := Nat.toDigits 10 n

/-- An integer in decimal. -/
def decimalText (n : Int) : String :=
  if n < 0 then String.ofList ('-' :: decimalDigits n.natAbs)
  else String.ofList (decimalDigits n.natAbs)

namespace Decimal

def zeros (n : Nat) : List Char := List.replicate n '0'

/-- The power of ten just above the value. -/
def magnitude (d : Decimal) : Int := (decimalDigits d.digits).length + d.exponent

/-- All digits written out, with a point only where a fraction follows. -/
def positional (d : Decimal) : List Char :=
  let ds := decimalDigits d.digits
  if 0 ≤ d.exponent then ds ++ zeros d.exponent.toNat
  else if 0 < d.magnitude then
    ds.take d.magnitude.toNat ++ '.' :: ds.drop d.magnitude.toNat
  else '0' :: '.' :: zeros (-d.magnitude).toNat ++ ds

/-- One digit before the point and a power of ten, whose sign is written also where it is `+` if
`signed` asks for that. -/
def scientific (signed : Bool) (d : Decimal) : List Char :=
  let mantissa := match decimalDigits d.digits with
    | [] => []
    | [c] => [c]
    | c :: rest => c :: '.' :: rest
  let exponent := (decimalText (d.magnitude - 1)).toList
  mantissa ++ 'e' :: (if signed ∧ 1 ≤ d.magnitude then '+' :: exponent else exponent)

/-- Adds `.0` to digits that have no point. -/
def withPoint (cs : List Char) : List Char :=
  if cs.contains '.' then cs else cs ++ ['.', '0']

end Decimal

namespace Binary64

/-- The text of a number whose finite absolute value is written by `body`. -/
def layout (body : Decimal → List Char) (x : Binary64) : String :=
  if x.isNaN then "NaN"
  else
    let digits := if x.isInfinite then ['i', 'n', 'f'] else body x.shortest
    String.ofList (if x.isNegative then '-' :: digits else digits)

/-- Positional digits, with `.0` on a whole number. -/
def plain (x : Binary64) : String :=
  x.layout fun d => Decimal.withPoint d.positional

/-- Positional from `1e-4` up to `1e16`, else with an exponent. -/
def general (x : Binary64) : String :=
  x.layout fun d =>
    if d.digits = 0 ∨ (-3 ≤ d.magnitude ∧ d.magnitude ≤ 16) then Decimal.withPoint d.positional
    else d.scientific false

/-- The JSON form: positional from `1e-5` up to `1e16`, else with an exponent. -/
def compact (x : Binary64) : String :=
  x.layout fun d =>
    if d.digits = 0 ∨ (-4 ≤ d.magnitude ∧ d.magnitude ≤ 16) then Decimal.withPoint d.positional
    else d.scientific true

end Binary64

end Orchestrator
