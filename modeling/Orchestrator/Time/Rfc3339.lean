import Orchestrator.Time.Timestamp
import Orchestrator.Number.Layout
import Orchestrator.Text.Blank
import Orchestrator.Text.Digits

/-!
Times as text in the RFC 3339 form.

There are two readers. `parse?` takes the form as it is specified, with any of `T`, `t` and a
blank between date and time. `parseLoose?`, which reads times in documents, also takes blanks
between the parts, fields of fewer digits, signed years and `UTC` as an offset. Second 60 is a leap
second in any minute, and digits of a fraction after the ninth are dropped.
-/

namespace Orchestrator

/-- A time read from text: the moment and the offset it was written with, in seconds. -/
structure OffsetTime where
  moment : Timestamp
  offset : Int
  deriving DecidableEq, Repr, Inhabited

namespace Rfc3339

/-- Reads at least `low` and at most `high` digits. -/
def number (low high : Nat) (cs : List Char) : Option (Nat × List Char) :=
  let digits := (cs.take high).takeWhile Char.isDigit
  if digits.length < low then none else some (Text.digitsValue digits, cs.drop digits.length)

/-- Reads a number that has to lie between two bounds. -/
def bounded (low high least most : Nat) (cs : List Char) : Option (Nat × List Char) := do
  let (n, rest) ← number low high cs
  if least ≤ n ∧ n ≤ most then some (n, rest) else none

/-- Reads one given character. -/
def char (c : Char) : List Char → Option (List Char)
  | d :: rest => if d = c then some rest else none
  | [] => none

/-- Reads the character between date and time. -/
def separator : List Char → Option (List Char)
  | c :: rest => if c = 't' ∨ c = 'T' ∨ c = ' ' then some rest else none
  | [] => none

/-- Reads a fraction of a second as nanoseconds, where there is one. -/
def fraction (cs : List Char) : Option (Nat × List Char) :=
  match cs with
  | '.' :: rest =>
    match rest.takeWhile Char.isDigit with
    | [] => none
    | digits =>
      let nine := (digits ++ List.replicate 9 '0').take 9
      some (Text.digitsValue nine, rest.drop digits.length)
  | _ => some (0, cs)

/-- Reads the sign of an offset. -/
def offsetSign : List Char → Option (Int × List Char)
  | '+' :: rest => some (1, rest)
  | c :: rest => if c = '-' ∨ c.toNat = 0x2212 then some (-1, rest) else none
  | [] => none

/-- Reads an offset in seconds; `between` reads what stands between its hours and minutes. -/
def offset (between : List Char → Option (List Char)) (cs : List Char) :
    Option (Int × List Char) :=
  match cs with
  | 'Z' :: rest | 'z' :: rest => some (0, rest)
  | _ => do
    let (sign, rest) ← offsetSign cs
    let (hours, rest) ← number 2 2 rest
    let rest ← between rest
    let (minutes, rest) ← bounded 2 2 0 59 rest
    some (sign * (hours * 3600 + minutes * 60), rest)

/-- The fields of a time as they are written. -/
structure Fields where
  date : Date
  hour : Nat
  minute : Nat
  second : Nat
  nanos : Nat
  offset : Int

/-- The time that fields stand for, where they are a date and the moment is in range. -/
def Fields.toTime? (f : Fields) : Option OffsetTime :=
  if f.date.isValid ∧ f.offset.natAbs < 86400 then
    let second := min f.second 59
    let leap := if f.second = 60 then nanosPerSecond else 0
    let seconds := f.date.toDays * secondsPerDay + f.hour * 3600 + f.minute * 60 + second
    let written : Timestamp := ⟨seconds, 0⟩
    let moment : Timestamp := ⟨seconds - f.offset, f.nanos + leap⟩
    if written.isInRange ∧ moment.isInRange then some ⟨moment, f.offset⟩ else none
  else none

/-- Reads a time of the specified form. -/
def parse? (s : String) : Option OffsetTime := do
  let (year, cs) ← number 4 4 s.toList
  let cs ← char '-' cs
  let (month, cs) ← bounded 2 2 1 12 cs
  let cs ← char '-' cs
  let (day, cs) ← bounded 2 2 1 31 cs
  let cs ← separator cs
  let (hour, cs) ← bounded 2 2 0 23 cs
  let cs ← char ':' cs
  let (minute, cs) ← bounded 2 2 0 59 cs
  let cs ← char ':' cs
  let (second, cs) ← bounded 2 2 0 60 cs
  let (nanos, cs) ← fraction cs
  let (offset, cs) ← offset (char ':') cs
  if cs.isEmpty then Fields.toTime? ⟨⟨year, month, day⟩, hour, minute, second, nanos, offset⟩
  else none

/-- Reads a year, of at most four digits where it has no sign. -/
def looseYear (cs : List Char) : Option (Int × List Char) :=
  match Text.skipBlank cs with
  | '-' :: rest => (number 1 rest.length rest).map fun (n, rest) => (-n, rest)
  | '+' :: rest => (number 1 rest.length rest).map fun (n, rest) => (n, rest)
  | rest => (number 1 4 rest).map fun (n, rest) => (n, rest)

/-- Reads a field of one or two digits after blanks. -/
def looseField (least most : Nat) (cs : List Char) : Option (Nat × List Char) :=
  bounded 1 2 least most (Text.skipBlank cs)

/-- Reads one given character after blanks. -/
def looseChar (c : Char) (cs : List Char) : Option (List Char) := char c (Text.skipBlank cs)

/-- Reads an offset, or `UTC` in any case. -/
def looseOffset (cs : List Char) : Option (Int × List Char) :=
  if ((cs.take 3).map Char.toUpper) = ['U', 'T', 'C'] then some (0, cs.drop 3)
  else offset (fun rest => some (rest.dropWhile fun c => c = ':' || Text.isBlank c)) cs

/-- Reads a time as documents may hold it. -/
def parseLoose? (s : String) : Option OffsetTime := do
  let (year, cs) ← looseYear s.toList
  let cs ← looseChar '-' cs
  let (month, cs) ← looseField 1 12 cs
  let cs ← looseChar '-' cs
  let (day, cs) ← looseField 1 31 cs
  let cs ← separator cs
  let (hour, cs) ← looseField 0 23 cs
  let cs ← looseChar ':' cs
  let (minute, cs) ← looseField 0 59 cs
  let cs ← looseChar ':' cs
  let (second, cs) ← looseField 0 60 cs
  let (nanos, cs) ← fraction cs
  let (offset, cs) ← looseOffset (Text.skipBlank cs)
  if (Text.skipBlank cs).isEmpty then
    Fields.toTime? ⟨⟨year, month, day⟩, hour, minute, second, nanos, offset⟩
  else none

/-- A number with at least `width` digits. -/
def padded (width n : Nat) : String :=
  let digits := decimalDigits n
  String.ofList (List.replicate (width - digits.length) '0' ++ digits)

/-- A year; one outside four digits shows its sign. -/
def yearText (year : Int) : String :=
  if 0 ≤ year ∧ year ≤ 9999 then padded 4 year.natAbs
  else (if year < 0 then "-" else "+") ++ padded 4 year.natAbs

/-- A fraction with as many digits as it needs, in groups of three. -/
def fractionText (nanos : Nat) : String :=
  if nanos = 0 then ""
  else if nanos % 1000000 = 0 then "." ++ padded 3 (nanos / 1000000)
  else if nanos % 1000 = 0 then "." ++ padded 6 (nanos / 1000)
  else "." ++ padded 9 nanos

/-- A moment in universal time, followed by the given text for the offset. -/
def textWith (offset : String) (t : Timestamp) : String :=
  let date := Date.ofDays t.day
  let second := t.secondOfDay
  let leap := t.nanos / nanosPerSecond
  yearText date.year ++ "-" ++ padded 2 date.month ++ "-" ++ padded 2 date.day ++ "T"
    ++ padded 2 (second / 3600) ++ ":" ++ padded 2 (second / 60 % 60) ++ ":"
    ++ padded 2 (second % 60 + leap) ++ fractionText (t.nanos % nanosPerSecond) ++ offset

/-- A moment as documents hold it. -/
def text (t : Timestamp) : String := textWith "Z" t

/-- A moment with its offset in digits. -/
def textInDigits (t : Timestamp) : String := textWith "+00:00" t

end Rfc3339

namespace TimeOfDay

/-- Reads hours and minutes, and seconds where `withSeconds` asks for them. -/
def parse? (withSeconds : Bool) (s : String) : Option TimeOfDay := do
  let (hour, cs) ← Rfc3339.looseField 0 23 s.toList
  let cs ← Rfc3339.char ':' cs
  let (minute, cs) ← Rfc3339.looseField 0 59 cs
  let (second, cs) ←
    if withSeconds then do
      let cs ← Rfc3339.char ':' cs
      Rfc3339.looseField 0 60 cs
    else some (0, cs)
  if cs.isEmpty then
    some ⟨hour * 3600 + minute * 60 + min second 59, if second = 60 then nanosPerSecond else 0⟩
  else none

/-- A time of day as hours, minutes and seconds. -/
def text (t : TimeOfDay) : String :=
  Rfc3339.padded 2 (t.seconds / 3600) ++ ":" ++ Rfc3339.padded 2 (t.seconds / 60 % 60) ++ ":"
    ++ Rfc3339.padded 2 (t.seconds % 60 + t.nanos / nanosPerSecond)

end TimeOfDay

end Orchestrator
