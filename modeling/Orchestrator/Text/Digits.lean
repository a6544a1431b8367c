/-!
Digits and the numbers that are written in them.
-/

namespace Orchestrator.Text

/-- The value of a decimal digit. -/
def digitValue (c : Char) : Nat := c.toNat - '0'.toNat

/-- The number that decimal digits stand for. -/
def digitsValue (digits : List Char) : Nat := digits.foldl (fun n c => n * 10 + digitValue c) 0

/-- The value of a hexadecimal digit in any case. -/
def hexValue? (c : Char) : Option Nat :=
  if c.isDigit then some (digitValue c)
  else if 'a' ≤ c ∧ c ≤ 'f' then some (c.toNat - 'a'.toNat + 10)
  else if 'A' ≤ c ∧ c ≤ 'F' then some (c.toNat - 'A'.toNat + 10)
  else none

/-- A number with one more digit behind it, in a base of sixteen or less. -/
def pushDigit? (base n : Nat) (c : Char) : Option Nat := do
  let d ← hexValue? c
  if d < base then some (n * base + d) else none

/-- The number that digits stand for in a base. -/
def digitsIn? (base : Nat) (digits : List Char) : Option Nat := digits.foldlM (pushDigit? base) 0

/-- A hexadecimal digit in lower case. -/
def hexDigit (n : Nat) : Char := Nat.digitChar (n % 16)

/-- The two hexadecimal digits of an octet. -/
def hexPair (n : Nat) : List Char := [hexDigit (n / 16), hexDigit n]

end Orchestrator.Text
