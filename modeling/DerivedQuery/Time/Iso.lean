import DerivedQuery.Time.Moment
import DerivedQuery.Number.Notation
import DerivedQuery.Number.Numeral

/-!
# Written moments

Date and time with fixed widths, the most significant field first. The fraction has six digits and
is left out when it is zero; so are the seconds of an offset and their fraction.
-/

set_option autoImplicit false

namespace DerivedQuery

/-- The year, the month and the day, with hyphens between them. -/
def Date.text (d : Date) : String :=
  DecimalNotation.padded 4 d.year ++ "-" ++ DecimalNotation.padded 2 d.month ++ "-" ++
    DecimalNotation.padded 2 d.day

namespace DateTime

/-- Date and time with a separator between them. -/
def text (separator : String) (t : DateTime) : String :=
  let two (n : Nat) := DecimalNotation.padded 2 n
  let fraction :=
    if t.microsecond.val = 0 then "" else "." ++ DecimalNotation.padded 6 t.microsecond.val
  t.date.text ++ separator ++ two t.hour.val ++ ":" ++ two t.minute.val ++ ":" ++
    two t.second.val ++ fraction

end DateTime

namespace Offset

/-- The sign, hours and minutes of an offset, and its seconds and their fraction where these are not
zero. -/
def text (o : Offset) : String :=
  let size := o.microseconds.natAbs / 1000000
  let fraction := o.microseconds.natAbs % 1000000
  let two (n : Nat) := DecimalNotation.padded 2 n
  let seconds :=
    if fraction ≠ 0 then ":" ++ two (size % 60) ++ "." ++ DecimalNotation.padded 6 fraction
    else if size % 60 = 0 then "" else ":" ++ two (size % 60)
  (if o.microseconds < 0 then "-" else "+") ++ two (size / 3600) ++ ":" ++ two (size / 60 % 60) ++
    seconds

end Offset

namespace Moment

/-- Date and time, followed by the offset where there is one. -/
def text (separator : String) (m : Moment) : String :=
  m.clock.text separator ++ (m.offset.map Offset.text).getD ""

/-- A number of exactly `width` ASCII digits and what follows it. -/
def takeNumber? (width : Nat) (cs : List Char) : Option (Nat × List Char) :=
  let digits := cs.take width
  if digits.length = width ∧ digits.all Char.isDigit then
    some (Numeral.naturalValue digits, cs.drop width)
  else none

/-- What follows a given character. -/
def after? (mark : Char) : List Char → Option (List Char)
  | c :: rest => if c = mark then some rest else none
  | [] => none

/-- The microseconds of a fraction of one to six digits, and what follows it. -/
def takeFraction? : List Char → Option (Nat × List Char)
  | '.' :: rest =>
      let digits := (rest.takeWhile Char.isDigit).take 6
      if digits = [] then none
      else
        some (Numeral.naturalValue digits * Nat.pow 10 (6 - digits.length), rest.dropWhile Char.isDigit)
  | cs => some (0, cs)

/-- An offset that ends the text, where there is one. -/
def readOffset? : List Char → Option (Option Offset)
  | [] => some none
  | sign :: rest => do
      let (hours, rest) ← takeNumber? 2 rest
      let rest ← after? ':' rest
      let (minutes, rest) ← takeNumber? 2 rest
      let (seconds, rest) ← match rest with
        | [] => some (0, [])
        | c :: rest => do
            let rest ← after? ':' (c :: rest)
            takeNumber? 2 rest
      let size : Int := hours * 3600 + minutes * 60 + seconds
      if rest ≠ [] ∨ 60 ≤ minutes ∨ 60 ≤ seconds then none
      else if sign = '+' then (Offset.ofSeconds? size).map some
      else if sign = '-' then (Offset.ofSeconds? (-size)).map some
      else none

/-- Reads a moment whose date and time are separated by the letter T. -/
def read? (text : String) : Option Moment := do
  let (year, rest) ← takeNumber? 4 text.toList
  let rest ← after? '-' rest
  let (month, rest) ← takeNumber? 2 rest
  let rest ← after? '-' rest
  let (day, rest) ← takeNumber? 2 rest
  let rest ← after? 'T' rest
  let (hour, rest) ← takeNumber? 2 rest
  let rest ← after? ':' rest
  let (minute, rest) ← takeNumber? 2 rest
  let rest ← after? ':' rest
  let (second, rest) ← takeNumber? 2 rest
  let (microsecond, rest) ← takeFraction? rest
  let offset ← readOffset? rest
  let date ← Date.ofNumbers? year month day
  if 24 ≤ hour ∨ 60 ≤ minute ∨ 60 ≤ second then none
  else some ⟨.ofNumbers date hour minute second microsecond, offset⟩

end Moment

end DerivedQuery
