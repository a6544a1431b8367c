import Orchestrator.Time.Rfc3339

/-!
Schedules of minutes: for each of minute, hour, day of the month, month and day of the week the
values at which the schedule fires.
-/

namespace Orchestrator

/-- The parts of a local time that a schedule looks at; Sunday is weekday zero. -/
structure LocalMinute where
  minute : Nat
  hour : Nat
  dayOfMonth : Nat
  month : Nat
  weekday : Nat
  deriving DecidableEq, Repr, Inhabited

/-- The minute that contains a time, read in the time's own offset. -/
def OffsetTime.localMinute (t : OffsetTime) : LocalMinute :=
  let shifted : Timestamp := ⟨t.moment.seconds + t.offset, t.moment.nanos⟩
  let date := Date.ofDays shifted.day
  let second := shifted.secondOfDay
  ⟨second / 60 % 60, second / 3600, date.day, date.month, Date.weekday shifted.day⟩

namespace Cron

/-- One part of a field: the values from `first` to `last` in steps of `step`. -/
structure Part where
  first : Nat
  last : Nat
  step : Nat
  deriving DecidableEq, Repr, Inhabited

def Part.contains (p : Part) (value : Nat) : Bool :=
  p.first ≤ value && value ≤ p.last && (value - p.first) % p.step == 0

/-- The field of a schedule: its name in error texts, its range, and the symbolic names of its
values from `namedFrom` on. -/
structure Field where
  name : String
  low : Nat
  high : Nat
  names : List String
  namedFrom : Nat

namespace Field

def minute : Field := ⟨"minute", 0, 59, [], 0⟩

def hour : Field := ⟨"hour", 0, 23, [], 0⟩

def dayOfMonth : Field := ⟨"day-of-month", 1, 31, [], 0⟩

def month : Field :=
  ⟨"month", 1, 12, ["JAN", "FEB", "MAR", "APR", "MAY", "JUN", "JUL", "AUG", "SEP", "OCT", "NOV",
    "DEC"], 1⟩

/-- Days of the week, where seven is Sunday as well. -/
def weekday : Field := ⟨"day-of-week", 0, 7, ["SUN", "MON", "TUE", "WED", "THU", "FRI", "SAT"], 0⟩

/-- The values of the field's range. -/
def range (f : Field) : List Nat := List.range' f.low (f.high + 1 - f.low)

/-- The values of the field's range that some part holds, in increasing order. -/
def valuesOf (f : Field) (parts : List Part) : List Nat :=
  f.range.filter fun value => parts.any (·.contains value)

end Field

/-- A parsed expression. -/
structure Schedule where
  minutes : List Nat
  hours : List Nat
  daysOfMonth : List Nat
  months : List Nat
  weekdays : List Nat
  /-- Whether the expression leaves the day of the month open. -/
  anyDayOfMonth : Bool
  /-- Whether the expression leaves the day of the week open. -/
  anyWeekday : Bool
  deriving DecidableEq, Repr, Inhabited

namespace Schedule

/-- Whether the schedule fires on a day. When both day fields are restricted, either is enough. -/
def firesOn (s : Schedule) (dayOfMonth weekday : Nat) : Bool :=
  if s.anyDayOfMonth || s.anyWeekday then
    s.daysOfMonth.contains dayOfMonth && s.weekdays.contains weekday
  else s.daysOfMonth.contains dayOfMonth || s.weekdays.contains weekday

/-- Whether the schedule fires in a minute. -/
def firesAt (s : Schedule) (t : LocalMinute) : Bool :=
  s.firesOn t.dayOfMonth t.weekday && s.minutes.contains t.minute && s.hours.contains t.hour
    && s.months.contains t.month

/-- Whether the schedule fires in the minute that contains a time. -/
def fires (s : Schedule) (t : OffsetTime) : Bool := s.firesAt t.localMinute

end Schedule

end Cron

end Orchestrator
