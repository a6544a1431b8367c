import Orchestrator.Time.Calendar

/-!
Moments of universal time with nanoseconds. A leap second is held as the second before it with a
billion or more nanoseconds, so that the order by seconds and then nanoseconds is the order in
time.
-/

namespace Orchestrator

def secondsPerDay : Int := 86400

def nanosPerSecond : Nat := 1000000000

/-- A moment of universal time. -/
structure Timestamp where
  /-- Seconds from the start of 1970, leap seconds not counted. -/
  seconds : Int
  /-- Nanoseconds into the second, a billion or more inside a leap second. -/
  nanos : Nat
  deriving DecidableEq, Repr, Inhabited

/-- A time of day; the last second may be a leap second. -/
structure TimeOfDay where
  seconds : Nat
  nanos : Nat
  deriving DecidableEq, Repr, Inhabited

namespace Timestamp

/-- Whether a moment lies before another. -/
def before (a b : Timestamp) : Bool :=
  a.seconds < b.seconds || (a.seconds == b.seconds && a.nanos < b.nanos)

instance : LT Timestamp := ⟨fun a b => a.before b = true⟩

instance : DecidableRel (α := Timestamp) (· < ·) := fun _ _ => inferInstanceAs (Decidable (_ = true))

instance : LE Timestamp := ⟨fun a b => ¬ b < a⟩

instance : DecidableRel (α := Timestamp) (· ≤ ·) := fun _ _ => inferInstanceAs (Decidable (¬ _))

/-- The order in time. -/
def order (a b : Timestamp) : Ordering :=
  (compare a.seconds b.seconds).then (compare a.nanos b.nanos)

/-- The earliest and the latest day that a moment may fall on. -/
def firstDay : Int := Date.toDays ⟨-262143, 1, 1⟩

def lastDay : Int := Date.toDays ⟨262142, 12, 31⟩

def day (t : Timestamp) : Int := Int.fdiv t.seconds secondsPerDay

def secondOfDay (t : Timestamp) : Nat := (Int.fmod t.seconds secondsPerDay).toNat

/-- Whether the moment falls on a day that can be written. -/
def isInRange (t : Timestamp) : Bool := firstDay ≤ t.day && t.day ≤ lastDay

/-- The moment some seconds later, or earlier for a negative number, where it is in range. To
leave a leap second takes its second away. -/
def addSeconds? (t : Timestamp) (n : Int) : Option Timestamp :=
  let leap := nanosPerSecond ≤ t.nanos
  let start := if leap ∧ n < 0 then t.seconds + 1 else t.seconds
  let nanos := if leap ∧ n ≠ 0 then t.nanos - nanosPerSecond else t.nanos
  let moved : Timestamp := ⟨start + n, nanos⟩
  if moved.isInRange then some moved else none

/-- Nanoseconds from `earlier` to `later`. A leap second counts for a moment in a later second of
the day. -/
def nanosSince (later earlier : Timestamp) : Int :=
  let adjust : Int :=
    if earlier.secondOfDay < later.secondOfDay then
      if nanosPerSecond ≤ earlier.nanos then 1 else 0
    else if later.secondOfDay < earlier.secondOfDay then
      if nanosPerSecond ≤ later.nanos then -1 else 0
    else 0
  (later.seconds - earlier.seconds + adjust) * nanosPerSecond + (later.nanos - earlier.nanos)

/-- The moment at a time of day. -/
def atTime (day : Int) (time : TimeOfDay) : Timestamp :=
  ⟨day * secondsPerDay + time.seconds, time.nanos⟩

/-- The first moment at a time of day that lies after `now`, if there is one in range. -/
def nextDaily? (now : Timestamp) (time : TimeOfDay) : Option Timestamp :=
  let today := atTime now.day time
  if now < today then some today else today.addSeconds? secondsPerDay

end Timestamp

end Orchestrator
