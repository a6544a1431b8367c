import Orchestrator.Json.Basic
import Orchestrator.Text.Digits

/-!
Reading JSON text. The grammar is the strict one: no comments, no trailing commas, no leading
zeros, no raw control characters and no lone surrogates. Arrays and objects nest at most 127 deep.

A number without point and exponent that fits 64 bits is an integer. Any other number takes its
first digits, as many as fit 64 unsigned bits, and scales them by a power of ten with one
floating point operation, so that its last bit may differ from the nearest value.
-/

namespace Orchestrator

namespace Json

/-- How deep arrays and objects may nest. -/
def maxDepth : Nat := 127

/-- The largest unsigned 64-bit number. -/
def maxWord : Nat := Nat.pow 2 64 - 1

def isSpace (c : Char) : Bool := c = ' ' || c = '\n' || c = '\t' || c = '\r'

def skipSpace (cs : List Char) : List Char := cs.dropWhile isSpace

/-- Significand of a number: the leading digits that fit 64 unsigned bits, and how many digits
were left out after them. -/
structure Significand where
  value : Nat
  dropped : Nat

/-- Takes one more digit into a significand; from the first digit that does not fit, all are
left out. -/
def Significand.push (s : Significand) (d : Nat) : Significand :=
  if s.dropped = 0 ∧ s.value * 10 + d ≤ maxWord then ⟨s.value * 10 + d, 0⟩
  else ⟨s.value, s.dropped + 1⟩

def Significand.pushAll (s : Significand) (digits : List Char) : Significand :=
  digits.foldl (fun acc c => acc.push (Text.digitValue c)) s

/-- Divides by ten to the `n`, by steps of `1e308` where `n` is larger than that. -/
def scaleDown (x : Binary64) (n : Nat) : Binary64 :=
  if n ≤ 308 then x.div (Binary64.ofDecimal false 1 n)
  else if x.isZero then x
  else scaleDown (x.div (Binary64.ofDecimal false 1 308)) (n - 308)
termination_by n

/-- The number `value * 10 ^ exponent`, refused where it is too large. -/
def scaled (negative : Bool) (value : Nat) (exponent : Int) : Option Binary64 :=
  let base := Binary64.ofInt value
  let magnitude :=
    if exponent < 0 then some (scaleDown base exponent.natAbs)
    else if 308 < exponent then if base.isZero then some base else none
    else
      let product := base.mul (Binary64.ofDecimal false 1 exponent)
      if product.isInfinite then none else some product
  magnitude.map fun x => if negative then x.neg else x

/-- Splits off the digits in front. -/
def spanDigits (cs : List Char) : List Char × List Char := cs.span Char.isDigit

/-- Reads an exponent mark with its number, where there is one. -/
def exponentPart (cs : List Char) : Option (Option (Bool × List Char) × List Char) :=
  match cs with
  | c :: rest =>
    if c = 'e' ∨ c = 'E' then
      let (negative, rest) :=
        match rest with
        | '+' :: rest => (false, rest)
        | '-' :: rest => (true, rest)
        | _ => (false, rest)
      match spanDigits rest with
      | ([], _) => none
      | (digits, rest) => some (some (negative, digits), rest)
    else some (none, cs)
  | [] => some (none, [])

/-- Reads a point with its digits, where there is one. -/
def fractionPart (cs : List Char) : Option (Option (List Char) × List Char) :=
  match cs with
  | '.' :: rest =>
    match spanDigits rest with
    | ([], _) => none
    | (digits, rest) => some (some digits, rest)
  | _ => some (none, cs)

/-- The value of digits, held at the largest exponent that is told apart. -/
def exponentValue (digits : List Char) : Nat :=
  digits.foldl (fun acc c => min (acc * 10 + Text.digitValue c) (Nat.pow 2 31)) 0

/-- The number with the given whole digits, fraction digits and exponent. -/
def numberOf (negative : Bool) (whole : List Char) (fraction : Option (List Char))
    (exponent : Option (Bool × List Char)) : Option Number :=
  let lead := Significand.pushAll ⟨0, 0⟩ whole
  match fraction, exponent with
  | none, none =>
    if lead.dropped = 0 then
      if !negative then some (.int lead.value)
      else if lead.value = 0 ∨ Nat.pow 2 63 < lead.value then
        some (.float (Binary64.ofInt lead.value).neg)
      else some (.int (-lead.value))
    else (scaled negative lead.value lead.dropped).map .float
  | _, _ =>
    let digits := fraction.getD []
    let full := Significand.pushAll ⟨lead.value, 0⟩ digits
    let shift : Int := lead.dropped + full.dropped - digits.length
    match exponent with
    | none => (scaled negative full.value shift).map .float
    | some (down, digits) =>
      let n : Int := exponentValue digits
      if Nat.pow 2 31 ≤ n then
        if full.value ≠ 0 ∧ !down then none
        else some (.float (if negative then Binary64.zero.neg else Binary64.zero))
      else (scaled negative full.value (shift + if down then -n else n)).map .float

/-- Reads a number. -/
def number (cs : List Char) : Option (Number × List Char) := do
  let (negative, cs) :=
    match cs with
    | '-' :: rest => (true, rest)
    | _ => (false, cs)
  let (whole, cs) := spanDigits cs
  match whole with
  | [] => none
  | '0' :: _ :: _ => none
  | _ =>
    let (fraction, cs) ← fractionPart cs
    let (exponent, cs) ← exponentPart cs
    let n ← numberOf negative whole fraction exponent
    pure (n, cs)

/-- Reads four hexadecimal digits. -/
def hexFour : List Char → Option (Nat × List Char)
  | a :: b :: c :: d :: rest => do
    let a ← Text.hexValue? a
    let b ← Text.hexValue? b
    let c ← Text.hexValue? c
    let d ← Text.hexValue? d
    pure (((a * 16 + b) * 16 + c) * 16 + d, rest)
  | _ => none

/-- Reads what follows `\u`: one unit, or a pair of surrogates. -/
def unicodeEscape (cs : List Char) : Option (Char × List Char) := do
  let (n, rest) ← hexFour cs
  if 0xDC00 ≤ n ∧ n ≤ 0xDFFF then none
  else if 0xD800 ≤ n ∧ n ≤ 0xDBFF then
    match rest with
    | '\\' :: 'u' :: rest =>
      let (m, rest) ← hexFour rest
      if 0xDC00 ≤ m ∧ m ≤ 0xDFFF then
        pure (Char.ofNat (0x10000 + (n - 0xD800) * 0x400 + (m - 0xDC00)), rest)
      else none
    | _ => none
  else pure (Char.ofNat n, rest)

/-- The character that a one-letter escape stands for. -/
def simpleEscape? (c : Char) : Option Char :=
  if c = '"' ∨ c = '\\' ∨ c = '/' then some c
  else if c = 'b' then some '\x08'
  else if c = 'f' then some '\x0c'
  else if c = 'n' then some '\n'
  else if c = 'r' then some '\r'
  else if c = 't' then some '\t'
  else none

/-- Reads a string from after its opening quote; `fuel` bounds the characters read. -/
def stringBody : Nat → String → List Char → Option (String × List Char)
  | 0, _, _ => none
  | fuel + 1, acc, cs =>
    match cs with
    | [] => none
    | '"' :: rest => some (acc, rest)
    | '\\' :: 'u' :: rest =>
      match unicodeEscape rest with
      | some (c, rest) => stringBody fuel (acc.push c) rest
      | none => none
    | '\\' :: e :: rest =>
      match simpleEscape? e with
      | some c => stringBody fuel (acc.push c) rest
      | none => none
    | c :: rest => if c.toNat < 32 ∨ c = '\\' then none else stringBody fuel (acc.push c) rest

/-- Reads a string from after its opening quote. -/
def string (cs : List Char) : Option (String × List Char) := stringBody (cs.length + 1) "" cs

/-- Reads the elements of an array up to its closing bracket, each by `value`. -/
def elements (value : List Char → Option (Json × List Char)) :
    Nat → List Json → List Char → Option (List Json × List Char)
  | 0, _, _ => none
  | fuel + 1, acc, cs =>
    match value (skipSpace cs) with
    | none => none
    | some (j, rest) =>
      match skipSpace rest with
      | ',' :: rest => elements value fuel (j :: acc) rest
      | ']' :: rest => some ((j :: acc).reverse, rest)
      | _ => none

/-- Reads the entries of an object up to its closing brace, each value by `value`. -/
def members (value : List Char → Option (Json × List Char)) :
    Nat → List (String × Json) → List Char → Option (List (String × Json) × List Char)
  | 0, _, _ => none
  | fuel + 1, acc, cs =>
    match skipSpace cs with
    | '"' :: rest =>
      match string rest with
      | none => none
      | some (key, rest) =>
        match skipSpace rest with
        | ':' :: rest =>
          match value (skipSpace rest) with
          | none => none
          | some (j, rest) =>
            match skipSpace rest with
            | ',' :: rest => members value fuel ((key, j) :: acc) rest
            | '\x7d' :: rest => some (((key, j) :: acc).reverse, rest)
            | _ => none
        | _ => none
    | _ => none

/-- Reads a value that nests at most `depth` deep and starts at the first character. -/
def value : Nat → List Char → Option (Json × List Char)
  | _, 'n' :: 'u' :: 'l' :: 'l' :: rest => some (.null, rest)
  | _, 't' :: 'r' :: 'u' :: 'e' :: rest => some (.bool true, rest)
  | _, 'f' :: 'a' :: 'l' :: 's' :: 'e' :: rest => some (.bool false, rest)
  | _, '"' :: rest => (string rest).map fun (s, rest) => (.str s, rest)
  | 0, cs => (number cs).map fun (n, rest) => (.num n, rest)
  | depth + 1, '[' :: rest =>
    match skipSpace rest with
    | ']' :: rest => some (.arr [], rest)
    | rest =>
      (elements (value depth) (rest.length + 1) [] rest).map fun (items, rest) =>
        (.arr items, rest)
  | depth + 1, '\x7b' :: rest =>
    match skipSpace rest with
    | '\x7d' :: rest => some (.obj [], rest)
    | rest =>
      (members (value depth) (rest.length + 1) [] rest).map fun (entries, rest) =>
        (object entries, rest)
  | _ + 1, cs => (number cs).map fun (n, rest) => (.num n, rest)

/-- Reads a whole document. -/
def parse? (s : String) : Option Json :=
  match value maxDepth (skipSpace s.toList) with
  | some (j, rest) => if (skipSpace rest).isEmpty then some j else none
  | none => none

end Json

end Orchestrator
