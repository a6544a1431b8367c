/-!
UTF-8 read from octets.

`text?` refuses octets that are not UTF-8; `lossyText` puts the replacement character in the place
of each maximal ill-formed part.
-/

namespace Orchestrator.Utf8

/-- The octets of a text. -/
def octets (s : String) : List UInt8 := s.toUTF8.data.toList

/-- The text that a sequence of octets encodes, if it is UTF-8. -/
def text? (bytes : ByteArray) : Option String := String.fromUTF8? bytes

def replacement : Char := Char.ofNat 0xFFFD

/-- The number of further octets that a first octet asks for and the range allowed for the first
of them; `none` for an octet that starts no character. -/
def lead? (b : UInt8) : Option (Nat × UInt8 × UInt8) :=
  if b ≤ 0x7F then some (0, 0x80, 0xBF)
  else if 0xC2 ≤ b && b ≤ 0xDF then some (1, 0x80, 0xBF)
  else if b == 0xE0 then some (2, 0xA0, 0xBF)
  else if b == 0xED then some (2, 0x80, 0x9F)
  else if 0xE1 ≤ b && b ≤ 0xEF then some (2, 0x80, 0xBF)
  else if b == 0xF0 then some (3, 0x90, 0xBF)
  else if 0xF1 ≤ b && b ≤ 0xF3 then some (3, 0x80, 0xBF)
  else if b == 0xF4 then some (3, 0x80, 0x8F)
  else none

/-- The well-formed tail octets at the front of a list, at most `count`, the first of them within
the given range. -/
def tails : Nat → UInt8 → UInt8 → List UInt8 → List UInt8
  | 0, _, _, _ => []
  | _ + 1, _, _, [] => []
  | count + 1, low, high, b :: rest =>
    if low ≤ b && b ≤ high then b :: tails count 0x80 0xBF rest else []

/-- The bits that a first octet contributes to its character. -/
def leadBits (count : Nat) (b : UInt8) : Nat :=
  match count with
  | 0 => b.toNat
  | 1 => b.toNat % 32
  | 2 => b.toNat % 16
  | _ => b.toNat % 8

/-- The first character of a non-empty octet sequence and the number of octets after the first
that it takes. -/
def nextChar (b : UInt8) (rest : List UInt8) : Char × Nat :=
  match lead? b with
  | none => (replacement, 0)
  | some (count, low, high) =>
    let ts := tails count low high rest
    if ts.length = count then
      (Char.ofNat (ts.foldl (fun acc t => acc * 64 + t.toNat % 64) (leadBits count b)), count)
    else (replacement, ts.length)

/-- Every octet sequence as characters, with the replacement character for ill-formed parts.
`skip` counts octets that belong to the character read last. -/
def lossyChars : Nat → List UInt8 → List Char
  | _, [] => []
  | skip + 1, _ :: rest => lossyChars skip rest
  | 0, b :: rest =>
    let (c, taken) := nextChar b rest
    c :: lossyChars taken rest

def lossyText (bytes : List UInt8) : String := String.ofList (lossyChars 0 bytes)

end Orchestrator.Utf8
