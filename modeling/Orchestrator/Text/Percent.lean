import Orchestrator.Text.Utf8

/-!
Percent-encoded octets.

A percent sign followed by two hexadecimal digits stands for one octet. A percent sign without
them stands for itself.
-/

namespace Orchestrator.Percent

/-- The value of an octet that encodes a hexadecimal digit. -/
def hexValue? (b : UInt8) : Option UInt8 :=
  if 0x30 ≤ b && b ≤ 0x39 then some (b - 0x30)
  else if 0x41 ≤ b && b ≤ 0x46 then some (b - 0x41 + 10)
  else if 0x61 ≤ b && b ≤ 0x66 then some (b - 0x61 + 10)
  else none

/-- Replaces each escape by its octet. -/
def decode : List UInt8 → List UInt8
  | [] => []
  | b :: rest =>
    if b = 0x25 then
      match rest with
      | high :: low :: tail =>
        match hexValue? high, hexValue? low with
        | some h, some l => (h * 16 + l) :: decode tail
        | _, _ => b :: decode (high :: low :: tail)
      | short => b :: decode short
    else b :: decode rest

/-- The text that a percent-encoded text stands for, if it is UTF-8. -/
def decodeText? (s : String) : Option String :=
  Utf8.text? ⟨(decode (Utf8.octets s)).toArray⟩

end Orchestrator.Percent
