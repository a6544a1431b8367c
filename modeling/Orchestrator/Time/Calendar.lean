/-!
The proleptic Gregorian calendar, counted in days from the first of January 1970.

Years begin in March for the count, so that the leap day is the last day of its year and the
lengths of the months before it follow one linear rule.
-/

namespace Orchestrator

/-- A calendar date; months and days count from one. -/
structure Date where
  year : Int
  month : Nat
  day : Nat
  deriving DecidableEq, Repr, Inhabited

namespace Date

def isLeapYear (year : Int) : Bool := year % 4 = 0 && (year % 100 ≠ 0 || year % 400 = 0)

/-- The number of days of a month. -/
def monthLength (year : Int) (month : Nat) : Nat :=
  match month with
  | 2 => if isLeapYear year then 29 else 28
  | 4 | 6 | 9 | 11 => 30
  | _ => 31

/-- Whether the date is in the calendar. -/
def isValid (d : Date) : Bool :=
  1 ≤ d.month && d.month ≤ 12 && 1 ≤ d.day && d.day ≤ monthLength d.year d.month

/-- Days before a month in a year that begins in March, where March is month zero. -/
def daysBeforeMonth (fromMarch : Nat) : Nat := (153 * fromMarch + 2) / 5

/-- Days from the first of January 1970. -/
def toDays (d : Date) : Int :=
  let year := if d.month ≤ 2 then d.year - 1 else d.year
  let fromMarch := (d.month + 9) % 12
  365 * year + Int.fdiv year 4 - Int.fdiv year 100 + Int.fdiv year 400
    + daysBeforeMonth fromMarch + d.day - 1 - 719468

/-- The date a number of days from the first of January 1970. -/
def ofDays (days : Int) : Date :=
  let shifted := days + 719468
  let era := Int.fdiv shifted 146097
  let dayOfEra := (Int.fmod shifted 146097).toNat
  let yearOfEra := (dayOfEra - dayOfEra / 1460 + dayOfEra / 36524 - dayOfEra / 146096) / 365
  let dayOfYear := dayOfEra - (365 * yearOfEra + yearOfEra / 4 - yearOfEra / 100)
  let fromMarch := (5 * dayOfYear + 2) / 153
  let month := if fromMarch < 10 then fromMarch + 3 else fromMarch - 9
  let year := era * 400 + yearOfEra
  ⟨if month ≤ 2 then year + 1 else year, month, dayOfYear - daysBeforeMonth fromMarch + 1⟩

/-- The day of the week of a day count, Sunday being zero. -/
def weekday (days : Int) : Nat := (Int.fmod (days + 4) 7).toNat

end Date

end Orchestrator
