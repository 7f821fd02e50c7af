/-!
# Double-precision numbers

A finite double is a sign, an exponent field and a fraction field of the binary64 format, so two
doubles are equal exactly when they are the same number with the same sign of zero. All finite
doubles are whole multiples of 2⁻¹⁰⁷⁴; comparing numbers, also a double with an integer of any size,
is comparing whole numbers of these units.
-/

set_option autoImplicit false

namespace DerivedQuery

/-- A binary64 number; its fraction field has 52 bits. All NaNs are one value, because no operation
here can tell them apart. -/
inductive Double where
  | nan
  | infinite (negative : Bool)
  | finite (negative : Bool) (exponent : Fin 2047) (fraction : Fin 4503599627370496)
  deriving DecidableEq, Repr

/-- A number with its two infinite neighbours; a finite one is counted in units of 2⁻¹⁰⁷⁴. -/
inductive Quantity where
  | negativeInfinity
  | units (count : Int)
  | positiveInfinity
  deriving DecidableEq, Repr

namespace Quantity

/-- The integer `n` as a quantity. -/
def ofInt (n : Int) : Quantity := .units (n * Int.pow 2 1074)

/-- Every finite quantity lies between the infinities. -/
def compare : Quantity → Quantity → Ordering
  | .negativeInfinity, .negativeInfinity => .eq
  | .negativeInfinity, _ => .lt
  | _, .negativeInfinity => .gt
  | .positiveInfinity, .positiveInfinity => .eq
  | .positiveInfinity, _ => .gt
  | _, .positiveInfinity => .lt
  | .units a, .units b => if a < b then .lt else if a = b then .eq else .gt

end Quantity

namespace Double

/-- The size of a finite double in units of 2⁻¹⁰⁷⁴. The exponent field zero marks the subnormal
numbers, which have no hidden leading bit. -/
def unitsOf (exponent fraction : Nat) : Nat :=
  if exponent = 0 then fraction else (Nat.pow 2 52 + fraction) * Nat.pow 2 (exponent - 1)

/-- The quantity that a double denotes; a NaN denotes none. -/
def quantity? : Double → Option Quantity
  | .nan => none
  | .infinite true => some .negativeInfinity
  | .infinite false => some .positiveInfinity
  | .finite true e f => some (.units (-(unitsOf e.val f.val : Nat)))
  | .finite false e f => some (.units (unitsOf e.val f.val : Nat))

/-- Quotient rounded to the nearest whole number, a half going to the even neighbour. -/
def roundedQuotient (numerator denominator : Nat) : Nat :=
  let quotient := numerator / denominator
  let remainder := numerator % denominator
  if 2 * remainder < denominator then quotient
  else if denominator < 2 * remainder then quotient + 1
  else if quotient % 2 = 0 then quotient else quotient + 1

/-- Zero with a sign. -/
def zero (negative : Bool) : Double := .finite negative 0 0

/-- The double with the significand `m`, at most 2⁵³, times 2 to the `shift` units. -/
def ofSignificand (negative : Bool) (m shift : Nat) : Double :=
  if m < Nat.pow 2 52 then .finite negative 0 (Fin.ofNat _ m)
  else
    let carried := m = Nat.pow 2 53
    let exponent := if carried then shift + 2 else shift + 1
    if h : exponent < 2047 then
      .finite negative ⟨exponent, h⟩ (Fin.ofNat _ (if carried then 0 else m - Nat.pow 2 52))
    else .infinite negative

/-- The double nearest to a fraction, ties going to the even significand. The denominator is
positive. -/
def ofRatio (negative : Bool) (numerator denominator : Nat) : Double :=
  let units := numerator * Nat.pow 2 1074
  let shift := Nat.log2 (units / denominator) - 52
  ofSignificand negative (roundedQuotient units (denominator * Nat.pow 2 shift)) shift

/-- The double nearest to an integer. -/
def ofInt (n : Int) : Double := ofRatio (n < 0) n.natAbs 1

end Double

end DerivedQuery
