import DerivedQuery.Number.Notation

/-!
# Rounded decimals

A double is written with a given number of places behind the point or of significant digits. The
digits are those of the exact value, rounded to the nearest decimal, a half going to the even
neighbour. Sizes are counted in units of 2⁻¹⁰⁷⁴, as everywhere.
-/

set_option autoImplicit false

namespace DerivedQuery

namespace Rounded

/-- The whole number nearest to `units × 2⁻¹⁰⁷⁴ × 10 ^ places`. -/
def scaled (units : Nat) (places : Int) : Nat :=
  Double.roundedQuotient (units * Nat.pow 10 places.toNat)
    (Nat.pow 2 1074 * Nat.pow 10 (-places).toNat)

/-- The decimal exponent of the leading digit of a positive size. The smallest size exceeds 10⁻³²⁴,
so that after scaling by 10³²⁴ the whole part has as many digits as the exponent says. -/
def leadingExponent (units : Nat) : Int :=
  ((Nat.toDigits 10 (units * Nat.pow 10 324 / Nat.pow 2 1074)).length : Int) - 325

/-- Digits with zeros before them up to a number of digits. -/
def padded (width n : Nat) : List Char := (DecimalNotation.padded width n).toList

/-- The given number of significant digits and the decimal exponent of the first one. -/
def significant (units count : Nat) : List Char × Int :=
  if units = 0 then (List.replicate count '0', 0)
  else
    let exponent := leadingExponent units
    let digits := scaled units ((count : Int) - 1 - exponent)
    if digits = Nat.pow 10 count then (padded count (Nat.pow 10 (count - 1)), exponent + 1)
    else (padded count digits, exponent)

end Rounded

/-- How rounded decimals are laid out. -/
structure RoundedStyle where
  /-- The mark before an exponent. -/
  exponentMark : String
  /-- Are the point and zeros at the end always kept? -/
  full : Bool

namespace RoundedStyle

/-- The notation for a style, positional for exponents from -4 up to a bound. -/
def notationUpTo (style : RoundedStyle) (bound : Nat) : DecimalNotation where
  lowestPositional := -4
  pastPositional := bound
  wholeSuffix := if style.full then "." else ""
  exponentMark := style.exponentMark
  exponentWidth := 2
  barePoint := style.full
  nanText := "nan"
  infinityText := "inf"

/-- A size with a number of places behind the point. -/
def fixed (style : RoundedStyle) (places units : Nat) : String :=
  let digits := Rounded.padded (places + 1) (Rounded.scaled units places)
  let whole := digits.length - places
  let fraction := if places = 0 && !style.full then [] else '.' :: digits.drop whole
  String.ofList (digits.take whole ++ fraction)

/-- A size with a number of places behind the point and an exponent. -/
def scientific (style : RoundedStyle) (places units : Nat) : String :=
  let (digits, exponent) := Rounded.significant units (places + 1)
  (style.notationUpTo 0).scientific digits exponent

/-- Digits without zeros at their end; one digit is always left. -/
def trimmed (digits : List Char) : List Char :=
  digits.take 1 ++ ((digits.drop 1).reverse.dropWhile (· == '0')).reverse

/-- A size with a number of significant digits: without exponent where the digits reach the point,
and otherwise with one. -/
def general (style : RoundedStyle) (precision units : Nat) : String :=
  let count := max 1 precision
  let (digits, exponent) := Rounded.significant units count
  let shown := if style.full then digits else trimmed digits
  let layout := style.notationUpTo count
  if layout.lowestPositional ≤ exponent ∧ exponent < layout.pastPositional then
    layout.positional shown exponent
  else layout.scientific shown exponent

end RoundedStyle

end DerivedQuery
