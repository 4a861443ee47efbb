/-!
Moments of the Gregorian calendar: a date with a time of day, and where the day stands in its week,
in its year, and in the weeks of the year.
-/

namespace SlideDeck.Calendar

structure Moment where
  year : Nat
  month : Nat
  day : Nat
  hour : Nat := 0
  minute : Nat := 0
  second : Nat := 0
  microsecond : Nat := 0
deriving DecidableEq, Repr

def isLeapYear (year : Nat) : Bool := year % 4 == 0 && (year % 100 != 0 || year % 400 == 0)

def yearLength (year : Nat) : Nat := if isLeapYear year then 366 else 365

def daysBeforeMonth (month : Nat) : Nat :=
  [0, 0, 31, 59, 90, 120, 151, 181, 212, 243, 273, 304, 334][month]?.getD 0

def daysBeforeYear (year : Nat) : Nat :=
  let y := year - 1
  y * 365 + y / 4 - y / 100 + y / 400

namespace Moment

def yearDay (m : Moment) : Nat :=
  daysBeforeMonth m.month + (if isLeapYear m.year && 2 < m.month then 1 else 0) + (m.day - 1)

def dayNumber (m : Moment) : Nat := daysBeforeYear m.year + m.yearDay

/-- The day of the week, Sunday being 0; the year 1 began on a Monday. -/
def weekDay (m : Moment) : Nat := (m.dayNumber + 1) % 7

def clockHour (m : Moment) : Nat := if m.hour % 12 = 0 then 12 else m.hour % 12

def epochSeconds (m : Moment) : Int :=
  ((m.dayNumber : Int) - daysBeforeYear 1970) * 86400 + m.hour * 3600 + m.minute * 60 + m.second

/-- The week of the year when weeks begin on the day of the week `start`; days before the first
such day are in week 0. -/
def weekFrom (start : Nat) (m : Moment) : Nat := (m.yearDay + 7 - (m.weekDay + 7 - start) % 7) / 7

/-- The days from the Monday of week 1 to a day with the given weekday, where `day` counts from the
first of January of the year in question; week 1 is the week of the year's first Thursday. -/
def daysIntoWeeks (day : Int) (weekDay : Nat) : Int := day - (day - weekDay + 4 + 378) % 7 + 3

/-- The year and week of a calendar of whole weeks, in which a week belongs to the year that has its
Thursday. -/
def weekDate (m : Moment) : Nat × Nat :=
  let day : Int := m.yearDay
  let here := daysIntoWeeks day m.weekDay
  let next := daysIntoWeeks (day - yearLength m.year) m.weekDay
  if here < 0 then
    let before := daysIntoWeeks (day + yearLength (m.year - 1)) m.weekDay
    (m.year - 1, before.toNat / 7 + 1)
  else if 0 ≤ next then (m.year + 1, next.toNat / 7 + 1)
  else (m.year, here.toNat / 7 + 1)

end Moment

end SlideDeck.Calendar
