import DerivedQuery.Lexicographic
import DerivedQuery.Time.Calendar

/-!
# Moments

A moment is a date and a time of day with an optional offset from UTC. Its instant is the number of
microseconds since the first midnight of the year 1 in UTC; `Moment.utc?` gives the date and time in
UTC of the same instant, where the years 1 to 9999 hold one. A moment without offset is read as UTC.
-/

set_option autoImplicit false

namespace DerivedQuery

/-- A date and a time of day to the microsecond. -/
structure DateTime where
  date : Date
  hour : Fin 24
  minute : Fin 60
  second : Fin 60
  microsecond : Fin 1000000
  deriving DecidableEq, Repr

namespace DateTime

/-- The number of microseconds since midnight. -/
def microsecondOfDay (t : DateTime) : Nat :=
  ((t.hour.val * 60 + t.minute.val) * 60 + t.second.val) * 1000000 + t.microsecond.val

/-- The number of microseconds since the first midnight of the year 1. -/
def sinceStart (t : DateTime) : Nat :=
  t.date.dayNumber * 86400000000 + t.microsecondOfDay

/-- A date with the time of day of these numbers, each counted within its range. -/
def ofNumbers (date : Date) (hour minute second microsecond : Nat) : DateTime :=
  { date
    hour := Fin.ofNat 24 hour
    minute := Fin.ofNat 60 minute
    second := Fin.ofNat 60 second
    microsecond := Fin.ofNat 1000000 microsecond }

/-- The date and time this many microseconds after the first midnight of the year 1; `none` outside
the years 1 to 9999. -/
def ofSinceStart? (microseconds : Int) : Option DateTime :=
  if microseconds < 0 then none
  else
    let n := microseconds.toNat
    (Date.ofDayNumber? (n / 86400000000)).map fun date =>
      ofNumbers date (n / 3600000000) (n / 60000000) (n / 1000000) n

/-- The fields from the year down to the microsecond. -/
def fields (t : DateTime) : List Nat :=
  [t.date.year, t.date.month, t.date.day, t.hour.val, t.minute.val, t.second.val, t.microsecond.val]

/-- The first field in which two moments of the calendar differ decides. -/
def compare (a b : DateTime) : Ordering := compareLists a.fields b.fields

end DateTime

/-- An offset from UTC of less than a day in either direction. -/
structure Offset where
  microseconds : Int
  range : -86400000000 < microseconds ∧ microseconds < 86400000000
  deriving DecidableEq, Repr

namespace Offset

/-- No offset. -/
def zero : Offset := ⟨0, by decide⟩

/-- The offset of this many seconds, if it is less than a day. -/
def ofSeconds? (seconds : Int) : Option Offset :=
  if h : -86400000000 < seconds * 1000000 ∧ seconds * 1000000 < 86400000000 then
    some ⟨seconds * 1000000, h⟩
  else none

end Offset

/-- A local date and time with its offset from UTC, where that is known. -/
structure Moment where
  clock : DateTime
  offset : Option Offset
  deriving DecidableEq, Repr

namespace Moment

/-- A moment given in UTC. -/
def ofUtc (t : DateTime) : Moment := ⟨t, some .zero⟩

/-- The number of microseconds since the first midnight of the year 1 in UTC. -/
def instant (m : Moment) : Int :=
  m.clock.sinceStart - (m.offset.map Offset.microseconds).getD 0

/-- The date and time in UTC; `none` when UTC has left the years 1 to 9999. -/
def utc? (m : Moment) : Option DateTime :=
  match m.offset with
  | none => some m.clock
  | some _ => DateTime.ofSinceStart? m.instant

end Moment

end DerivedQuery
