import Orchestrator.Number.Binary64
import Orchestrator.Text.Digits

/-!
Reading numbers from text.
-/

namespace Orchestrator

namespace Numeral

/-- The value of decimal digits, of which there must be at least one. -/
def natural? (cs : List Char) : Option Nat :=
  if cs.isEmpty ∨ !cs.all Char.isDigit then none
  else some (Text.digitsValue cs)

/-- Splits off a sign. Gives whether it is a minus. -/
def sign : List Char → Bool × List Char
  | '-' :: rest => (true, rest)
  | '+' :: rest => (false, rest)
  | cs => (false, cs)

/-- An integer with or without a sign. -/
def integer? (cs : List Char) : Option Int :=
  let (negative, digits) := sign cs
  (natural? digits).map fun n => if negative then -(n : Int) else n

/-- A number with digits on at least one side of its point, and perhaps an exponent. -/
def decimal? (negative : Bool) (cs : List Char) : Option Binary64 := do
  let (whole, rest) := cs.span Char.isDigit
  let (fraction, rest) := match rest with
    | '.' :: rest => rest.span Char.isDigit
    | _ => ([], rest)
  let digits ← natural? (whole ++ fraction)
  let exponent ← match rest with
    | [] => some 0
    | c :: rest => if c = 'e' ∨ c = 'E' then integer? rest else none
  pure (Binary64.ofDecimal negative digits (exponent - fraction.length))

/-- A floating point number, or one of the words for infinity and for what is no number. -/
def float? (cs : List Char) : Option Binary64 :=
  let (negative, body) := sign cs
  let word := String.ofList (body.map Char.toLower)
  if word = "inf" ∨ word = "infinity" then some (Binary64.infinity negative)
  else if word = "nan" then some Binary64.nan
  else decimal? negative body

end Numeral

end Orchestrator
