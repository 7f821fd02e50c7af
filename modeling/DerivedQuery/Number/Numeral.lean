import DerivedQuery.Number.Double

/-!
# Decimal numerals

An integer is an optional sign and digits, of which there is a greatest number, for reading as for
writing. Any other numeral is a sign, digits with an optional point, and an optional exponent; it
denotes the double nearest to its exact value. `nan`, `inf` and `infinity` are read in any case of
letters.
-/

set_option autoImplicit false

namespace DerivedQuery

namespace Numeral

/-- The number that ASCII digits denote. -/
def naturalValue (cs : List Char) : Nat :=
  cs.foldl (fun total c => total * 10 + (c.toNat - 48)) 0

/-- A sign, if there is one, and what follows it. -/
def splitSign : List Char → Bool × List Char
  | '-' :: rest => (true, rest)
  | '+' :: rest => (false, rest)
  | cs => (false, cs)

/-- The greatest number of digits of a whole number that is read or written. -/
def maxDigits : Nat := 4300

/-- The message for a number of digits that is too great. -/
def tooManyDigits (count : Nat) : String :=
  "Exceeds the limit (" ++ toString maxDigits ++
    " digits) for integer string conversion: value has " ++ toString count ++
    " digits; use sys.set_int_max_str_digits() to increase the limit"

/-- Does the whole number have more digits than are written? -/
@[irreducible] def isTooLong (n : Int) : Bool := Nat.pow 10 maxDigits ≤ n.natAbs

/-- The message for a whole number that is not written. -/
def notWritten : String :=
  "Exceeds the limit (" ++ toString maxDigits ++
    " digits) for integer string conversion; use sys.set_int_max_str_digits() to increase the limit"

/-- The integer that an optional sign and digits denote. Fails with the number of digits where these
are too many. -/
def integer (text : String) : Except Nat Int :=
  let (negative, digits) := splitSign text.toList
  let size : Int := naturalValue digits
  if maxDigits < digits.length then .error digits.length
  else .ok (if negative then -size else size)

/-- The value of an exponent part, zero when the part is empty. -/
def exponent? : List Char → Option Int
  | [] => some 0
  | mark :: rest =>
      let signed := splitSign rest
      if (mark = 'e' ∨ mark = 'E') ∧ signed.2 ≠ [] ∧ signed.2.all Char.isDigit then
        let size : Int := naturalValue signed.2
        some (if signed.1 then -size else size)
      else none

/-- The double nearest to `digits × 10 ^ scale`. Numbers far outside the range of doubles are
settled by their number of digits. -/
def scaled (negative : Bool) (digits : Nat) (scale : Int) : Double :=
  let leading := scale + (Nat.toDigits 10 digits).length
  if digits = 0 ∨ leading < -400 then Double.zero negative
  else if 400 < leading then .infinite negative
  else if scale < 0 then Double.ofRatio negative digits (Nat.pow 10 scale.natAbs)
  else Double.ofRatio negative (digits * Nat.pow 10 scale.natAbs) 1

/-- The double that an unsigned numeral denotes. -/
def unsigned? (negative : Bool) (cs : List Char) : Option Double :=
  let whole := cs.takeWhile Char.isDigit
  let afterWhole := cs.dropWhile Char.isDigit
  let pointed := afterWhole.head? = some '.'
  let fraction := if pointed then (afterWhole.drop 1).takeWhile Char.isDigit else []
  let rest := if pointed then (afterWhole.drop 1).dropWhile Char.isDigit else afterWhole
  if whole = [] ∧ fraction = [] then none
  else (exponent? rest).map fun exponent =>
    scaled negative (naturalValue (whole ++ fraction)) (exponent - (fraction.length : Int))

/-- The double that a numeral denotes; `none` for any other text. -/
def double? (text : String) : Option Double :=
  let signed := splitSign text.toList
  let name := signed.2.map Char.toLower
  if name = "nan".toList then some .nan
  else if name = "inf".toList ∨ name = "infinity".toList then some (.infinite signed.1)
  else unsigned? signed.1 signed.2

end Numeral

end DerivedQuery
