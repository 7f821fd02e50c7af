import DerivedQuery.Number.Double

/-!
# Arithmetic

Integers as rows of bits go on to the left without end, with ones where the integer is negative.
Arithmetic on finite doubles is exact arithmetic on their units, rounded once at the end; a result
of zero has no sign.
-/

set_option autoImplicit false

namespace DerivedQuery

namespace Integer

/-- The bits that two integers share. -/
def sharedBits (a b : Int) : Int :=
  let opposite (n : Int) : Nat := (-n - 1).toNat
  match decide (a < 0), decide (b < 0) with
  | false, false => ((a.toNat &&& b.toNat : Nat) : Int)
  | true, false => ((b.toNat ^^^ (b.toNat &&& opposite a) : Nat) : Int)
  | false, true => ((a.toNat ^^^ (a.toNat &&& opposite b) : Nat) : Int)
  | true, true => -((opposite a ||| opposite b : Nat) : Int) - 1

/-- The bits of either of two integers: those that their opposites do not share. -/
def eitherBits (a b : Int) : Int := -(sharedBits (-a - 1) (-b - 1)) - 1

/-- The bits of exactly one of two integers. -/
def differentBits (a b : Int) : Int := eitherBits a b - sharedBits a b

end Integer

namespace Double

/-- A finite double in units of 2⁻¹⁰⁷⁴. -/
def units? : Double → Option Int
  | .finite negative e f =>
      let size : Int := unitsOf e.val f.val
      some (if negative then -size else size)
  | _ => none

/-- The double nearest to a fraction of integers, where the denominator is positive. -/
def nearest (numerator : Int) (denominator : Nat) : Double :=
  ofRatio (numerator < 0) numerator.natAbs denominator

/-- The number of units in one. -/
def unit : Nat := Nat.pow 2 1074

/-- The sum of two finite doubles. -/
def sum? (a b : Double) : Option Double := do
  let x ← a.units?
  let y ← b.units?
  some (nearest (x + y) unit)

/-- The difference of two finite doubles. -/
def difference? (a b : Double) : Option Double := do
  let x ← a.units?
  let y ← b.units?
  some (nearest (x - y) unit)

/-- The product of two finite doubles. -/
def product? (a b : Double) : Option Double := do
  let x ← a.units?
  let y ← b.units?
  some (nearest (x * y) (unit * unit))

/-- The quotient of two integers, of which the second is not zero. -/
def quotient (a b : Int) : Double := nearest (if b < 0 then -a else a) b.natAbs

/-- The quotient of two finite doubles, of which the second is not zero. -/
def quotient? (a b : Double) : Option Double := do
  let x ← a.units?
  let y ← b.units?
  some (quotient x y)

/-- The whole quotient of two finite doubles, rounded down. -/
def wholeQuotient? (a b : Double) : Option Double := do
  let x ← a.units?
  let y ← b.units?
  some (ofInt (x.fdiv y))

/-- What the whole quotient of two finite doubles leaves. -/
def remainder? (a b : Double) : Option Double := do
  let x ← a.units?
  let y ← b.units?
  some (nearest (x.fmod y) unit)

/-- Is a double zero? -/
def isZero (d : Double) : Bool := d.units? == some 0

end Double

end DerivedQuery
