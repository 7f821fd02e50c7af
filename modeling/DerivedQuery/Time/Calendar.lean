/-!
# Calendar dates

Dates of the Gregorian calendar, extended to all years from 1 to 9999. A date has a day number,
counted from the first of January of the year 1, and `Date.ofDayNumber?` goes back: it finds the
year from the average length of a year, corrected by at most one, and then the month.
-/

set_option autoImplicit false

namespace DerivedQuery

/-- Every fourth year is a leap year, except centuries that are no multiple of four hundred years.
-/
def isLeapYear (year : Nat) : Bool :=
  year % 4 = 0 && (year % 100 ≠ 0 || year % 400 = 0)

/-- The number of days of a month, numbered from 1. -/
def daysInMonth (year month : Nat) : Nat :=
  if month = 2 then (if isLeapYear year then 29 else 28)
  else if month = 4 ∨ month = 6 ∨ month = 9 ∨ month = 11 then 30
  else 31

/-- The number of days in the years before this one. -/
def daysBeforeYear (year : Nat) : Nat :=
  let past := year - 1
  365 * past + past / 4 - past / 100 + past / 400

/-- The number of days in the months of this year before this one. -/
def daysBeforeMonth (year : Nat) : Nat → Nat
  | 0 => 0
  | 1 => 0
  | month + 2 => daysBeforeMonth year (month + 1) + daysInMonth year (month + 1)

/-- The year that holds a day number. -/
def yearOfDay (n : Nat) : Nat :=
  let guess := n * 400 / 146097 + 1
  if n < daysBeforeYear guess then guess - 1
  else if daysBeforeYear (guess + 1) ≤ n then guess + 1
  else guess

/-- The month that holds a day of the year, counted from zero: as many months have begun by then. -/
def monthOfDay (year dayOfYear : Nat) : Nat :=
  ((List.range 12).filter fun k => daysBeforeMonth year (k + 1) ≤ dayOfYear).length

/-- A date is given by its year, month and day. -/
structure Date where
  year : Nat
  month : Nat
  day : Nat
  year_range : 1 ≤ year ∧ year ≤ 9999
  month_range : 1 ≤ month ∧ month ≤ 12
  day_range : 1 ≤ day ∧ day ≤ daysInMonth year month
  deriving DecidableEq, Repr

namespace Date

/-- The date with these numbers, if there is one. -/
def ofNumbers? (year month day : Nat) : Option Date :=
  if h : (1 ≤ year ∧ year ≤ 9999) ∧ (1 ≤ month ∧ month ≤ 12) ∧
      (1 ≤ day ∧ day ≤ daysInMonth year month) then
    some ⟨year, month, day, h.1, h.2.1, h.2.2⟩
  else none

/-- The number of days from the first of January of the year 1. -/
def dayNumber (d : Date) : Nat :=
  daysBeforeYear d.year + daysBeforeMonth d.year d.month + (d.day - 1)

/-- The date with a given day number; `none` after the year 9999. -/
def ofDayNumber? (n : Nat) : Option Date :=
  let year := yearOfDay n
  let dayOfYear := n - daysBeforeYear year
  let month := monthOfDay year dayOfYear
  ofNumbers? year month (dayOfYear - daysBeforeMonth year month + 1)

end Date

end DerivedQuery
