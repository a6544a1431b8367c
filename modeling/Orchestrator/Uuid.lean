import Orchestrator.Json.Decode
import Orchestrator.Text.Digits

/-!
Universally unique identifiers: 128 bits, written as 32 hexadecimal digits in five groups.
-/

namespace Orchestrator

/-- A universally unique identifier. -/
structure Uuid where
  bits : BitVec 128
  deriving DecidableEq, Repr, Inhabited

namespace Uuid

/-- The lengths of the groups of digits. -/
def groups : List Nat := [8, 4, 4, 4, 12]

/-- The 32 digits of an identifier in lower case. -/
def digits (u : Uuid) : List Char :=
  let ds := Nat.toDigits 16 u.bits.toNat
  List.replicate (32 - ds.length) '0' ++ ds

/-- Joins groups of digits by hyphens. -/
def hyphenated : List Nat → List Char → List Char
  | [], _ => []
  | [n], cs => cs.take n
  | n :: rest, cs => cs.take n ++ '-' :: hyphenated rest (cs.drop n)

/-- The text of an identifier. -/
def text (u : Uuid) : String := String.ofList (hyphenated groups u.digits)

/-- Reads hexadecimal digits into the number in front of them. -/
def digitsValue? (n : Nat) (digits : List Char) : Option Nat :=
  digits.foldlM (Text.pushDigit? 16) n

/-- Takes the hyphens out between groups of digits. -/
def unhyphenated? : List Nat → List Char → Option (List Char)
  | [], cs => if cs.isEmpty then some [] else none
  | [n], cs => if cs.length = n then some cs else none
  | n :: rest, cs =>
    match cs.drop n with
    | '-' :: after => (unhyphenated? rest after).map (cs.take n ++ ·)
    | _ => none

/-- The form without braces and without the name of the scheme. -/
def unwrapped (cs : List Char) : List Char :=
  match cs with
  | '\x7b' :: rest =>
    if cs.length = 38 ∧ cs.getLast? = some '\x7d' then rest.dropLast else cs
  | 'u' :: 'r' :: 'n' :: ':' :: 'u' :: 'u' :: 'i' :: 'd' :: ':' :: rest =>
    if cs.length = 45 then rest else cs
  | _ => cs

/-- Reads an identifier: 32 digits, or five groups of them, which may stand in braces or behind
`urn:uuid:`. -/
def parse? (s : String) : Option Uuid := do
  let cs := s.toList
  let digits ← if cs.length = 32 then some cs else unhyphenated? groups (unwrapped cs)
  let n ← digitsValue? 0 digits
  if digits.length = 32 then some ⟨BitVec.ofNat 128 n⟩ else none

end Uuid

namespace Decode

def uuid : Decoder Uuid :=
  parsed "a formatted UUID string" fun s =>
    match Uuid.parse? s with
    | some u => .ok u
    | none => .error "UUID parsing failed"

end Decode

end Orchestrator
