import Orchestrator.Text.Utf8

/-!
Base 64 with the URL-safe alphabet and without padding.

Reading is strict: an odd letter count, a letter outside the alphabet and set bits behind the last
octet are refused, so each octet sequence has one written form.
-/

namespace Orchestrator.Base64

def alphabet : Array Char :=
  "ABCDEFGHIJKLMNOPQRSTUVWXYZabcdefghijklmnopqrstuvwxyz0123456789-_".toList.toArray

def letter (n : Nat) : Char := alphabet.getD (n % 64) 'A'

/-- The letters of an octet sequence, four for each three octets. -/
def encode : List UInt8 → List Char
  | [] => []
  | [a] =>
    let n := a.toNat * 16
    [letter (n / 64), letter n]
  | [a, b] =>
    let n := (a.toNat * 256 + b.toNat) * 4
    [letter (n / 4096), letter (n / 64), letter n]
  | a :: b :: c :: rest =>
    let n := (a.toNat * 256 + b.toNat) * 256 + c.toNat
    letter (n / 262144) :: letter (n / 4096) :: letter (n / 64) :: letter n :: encode rest

def value? (c : Char) : Option Nat := alphabet.findIdx? (· == c)

/-- The octets of a letter sequence. -/
def decode? : List Char → Option (List UInt8)
  | [] => some []
  | [_] => none
  | [a, b] => do
    let n := (← value? a) * 64 + (← value? b)
    if n % 16 = 0 then some [UInt8.ofNat (n / 16)] else none
  | [a, b, c] => do
    let n := ((← value? a) * 64 + (← value? b)) * 64 + (← value? c)
    if n % 4 = 0 then some [UInt8.ofNat (n / 1024), UInt8.ofNat (n / 4 % 256)] else none
  | a :: b :: c :: d :: rest => do
    let n := (((← value? a) * 64 + (← value? b)) * 64 + (← value? c)) * 64 + (← value? d)
    let tail ← decode? rest
    some (UInt8.ofNat (n / 65536) :: UInt8.ofNat (n / 256 % 256) :: UInt8.ofNat (n % 256) :: tail)

def encodeText (s : String) : String := String.ofList (encode (Utf8.octets s))

end Orchestrator.Base64
