/-!
# Calendar dates and times of day

Dates of the Gregorian calendar, extended to all years, and times of day to the
nanosecond.  A leap second is the second 59 with a nanosecond of one billion or
more.
-/

namespace Rulebook

/-- Whether a year has a leap day. -/
def isLeapYear (year : Int) : Bool :=
  year % 4 == 0 && (year % 100 != 0 || year % 400 == 0)

/-- The number of days in a month. -/
def daysInMonth (year : Int) (month : Nat) : Nat :=
  if month = 2 then if isLeapYear year then 29 else 28
  else if month = 4 || month = 6 || month = 9 || month = 11 then 30
  else 31

/-- A day of the calendar. -/
structure CalendarDate where
  year : Int
  month : Nat
  day : Nat
deriving DecidableEq, Inhabited

namespace CalendarDate

def leastYear : Int := -262143

def greatestYear : Int := 262142

/-- Whether there is such a day among the years that dates can have. -/
def isValid (date : CalendarDate) : Bool :=
  leastYear ≤ date.year && date.year ≤ greatestYear && 1 ≤ date.month && date.month ≤ 12 &&
    1 ≤ date.day && date.day ≤ daysInMonth date.year date.month

/-- The days of a year before a month. -/
def daysBeforeMonth (year : Int) : Nat → Nat
  | 0 | 1 => 0
  | month + 1 => daysBeforeMonth year month + daysInMonth year month

/-- The number of a day, counted from the first day of the year 1. -/
def number (date : CalendarDate) : Int :=
  let past := date.year - 1
  365 * past + past / 4 - past / 100 + past / 400 + daysBeforeMonth date.year date.month +
    date.day - 1

/-- The day after. -/
def next (date : CalendarDate) : CalendarDate :=
  if date.day < daysInMonth date.year date.month then { date with day := date.day + 1 }
  else if date.month < 12 then { date with month := date.month + 1, day := 1 }
  else ⟨date.year + 1, 1, 1⟩

/-- The day before. -/
def previous (date : CalendarDate) : CalendarDate :=
  if 1 < date.day then { date with day := date.day - 1 }
  else if 1 < date.month then
    ⟨date.year, date.month - 1, daysInMonth date.year (date.month - 1)⟩
  else ⟨date.year - 1, 12, 31⟩

/-- The day of the week, counted from Monday as `0`. -/
def weekday (date : CalendarDate) : Nat :=
  (date.number % 7).toNat

/-- The quarter of the year. -/
def quarter (date : CalendarDate) : Nat :=
  (date.month - 1) / 3 + 1

end CalendarDate

/-- A day and a time of day. -/
structure DateTime where
  date : CalendarDate
  hour : Nat
  minute : Nat
  second : Nat
  /-- From one billion on, the second is a leap second. -/
  nanosecond : Nat
deriving DecidableEq, Inhabited

namespace DateTime

/-- Whether the day and the time of day exist. -/
def isValid (d : DateTime) : Bool :=
  d.date.isValid && d.hour < 24 && d.minute < 60 && d.second < 60 &&
    (d.nanosecond < 1000000000 || (d.second == 59 && d.nanosecond < 2000000000))

/-- The date and time with these fields, if they exist.  The second 60 is the
leap second after the second 59. -/
def ofFields? (date : CalendarDate) (hour minute second nanosecond : Nat) : Option DateTime :=
  let d : DateTime :=
    if second = 60 then ⟨date, hour, minute, 59, nanosecond + 1000000000⟩
    else ⟨date, hour, minute, second, nanosecond⟩
  if d.isValid then some d else none

/-- The seconds from the start of the year 1, leap seconds left out. -/
def seconds (d : DateTime) : Int :=
  d.date.number * 86400 + (d.hour * 3600 + d.minute * 60 + d.second : Nat)

/-- Whether an instant comes before another. -/
def isBefore (a b : DateTime) : Bool :=
  a.seconds < b.seconds || (a.seconds == b.seconds && a.nanosecond < b.nanosecond)

/-- The same instant at a place whose clocks are so many minutes behind, less
than a day. -/
def minusMinutes (d : DateTime) (minutes : Int) : DateTime :=
  let minute : Int := (d.hour * 60 + d.minute : Nat) - minutes
  let date :=
    if minute < 0 then d.date.previous else if 1440 ≤ minute then d.date.next else d.date
  let within := (minute % 1440).toNat
  { d with date := date, hour := within / 60, minute := within % 60 }

/-- Takes an offset in minutes off a local time, unless that leaves the years
that dates can have. -/
def toUtc? (d : DateTime) (offset : Int) : Option DateTime :=
  let utc := d.minusMinutes offset
  if utc.isValid then some utc else none

end DateTime

end Rulebook
