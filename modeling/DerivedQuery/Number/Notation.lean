import DerivedQuery.Number.Shortest

/-!
# Decimal notation of doubles

A notation record says how a shortest decimal is laid out: for which leading exponents positional
notation is used, what closes a whole number, how the exponent is written and how the values that
are no numbers are spelled.
-/

set_option autoImplicit false

namespace DerivedQuery

/-- The decisions of one decimal notation. -/
structure DecimalNotation where
  /-- Positional notation is used from this leading exponent on. -/
  lowestPositional : Int
  /-- Positional notation ends before this leading exponent. -/
  pastPositional : Int
  /-- What follows a whole number in positional notation. -/
  wholeSuffix : String
  /-- What separates digits and exponent. -/
  exponentMark : String
  /-- The least number of digits of an exponent. -/
  exponentWidth : Nat
  /-- Does a point follow a single digit before an exponent? -/
  barePoint : Bool := false
  nanText : String
  infinityText : String

namespace DecimalNotation

/-- Digits padded on the left with zeros. -/
def padded (width n : Nat) : String :=
  let digits := Nat.toDigits 10 n
  String.ofList (List.replicate (width - digits.length) '0' ++ digits)

/-- The exponent with its sign. -/
def exponentText (style : DecimalNotation) (exponent : Int) : String :=
  style.exponentMark ++ (if exponent < 0 then "-" else "+") ++
    padded style.exponentWidth exponent.natAbs

/-- One digit before the point and the others, if there are any, behind it. -/
def scientific (style : DecimalNotation) (digits : List Char) (exponent : Int) : String :=
  let fraction := if digits.length ≤ 1 && !style.barePoint then [] else '.' :: digits.drop 1
  String.ofList (digits.take 1 ++ fraction) ++ style.exponentText exponent

/-- The digits with the point at its place, filled with zeros on either side. -/
def positional (style : DecimalNotation) (digits : List Char) (exponent : Int) : String :=
  if exponent < 0 then
    "0." ++ String.ofList (List.replicate (exponent.natAbs - 1) '0' ++ digits)
  else
    let whole := exponent.natAbs + 1
    if digits.length ≤ whole then
      String.ofList (digits ++ List.replicate (whole - digits.length) '0') ++ style.wholeSuffix
    else
      String.ofList (digits.take whole) ++ "." ++ String.ofList (digits.drop whole)

/-- A decimal in this notation. -/
def decimalText (style : DecimalNotation) (d : Decimal) : String :=
  let digits := Nat.toDigits 10 d.digits
  let exponent := if d.digits = 0 then 0 else d.scale + (digits.length : Int) - 1
  if style.lowestPositional ≤ exponent ∧ exponent < style.pastPositional then
    style.positional digits exponent
  else style.scientific digits exponent

/-- A double in this notation: the shortest decimal that reads back. -/
def doubleText (style : DecimalNotation) : Double → String
  | .nan => style.nanText
  | .infinite negative => (if negative then "-" else "") ++ style.infinityText
  | .finite negative e f =>
      (if negative then "-" else "") ++ style.decimalText (Double.shortestDecimal e.val f.val)

end DecimalNotation

end DerivedQuery
