import DerivedQuery.Number.Double

/-!
# The shortest decimal of a double

Among the decimals that read back as a given double, `shortest` picks those with the fewest digits
and of these the nearest one. A decimal reads back when it lies in the rounding interval, whose ends
belong to it exactly when the significand is even. On each decimal grid only the two neighbours of
the number can be nearest, so it is enough to test these.
-/

set_option autoImplicit false

namespace DerivedQuery

/-- The decimal `digits × 10 ^ scale`. -/
structure Decimal where
  digits : Nat
  scale : Int
  deriving DecidableEq, Repr

namespace Decimal

/-- The decimal without zeros at its end; zero is left alone. The recursion is bounded by `fuel`,
and a number has fewer zeros at its end than binary digits. -/
def trimAfter : Nat → Decimal → Decimal
  | 0, d => d
  | fuel + 1, d =>
      if d.digits ≠ 0 ∧ d.digits % 10 = 0 then trimAfter fuel ⟨d.digits / 10, d.scale + 1⟩ else d

/-- The same number with the fewest digits. -/
def trim (d : Decimal) : Decimal := trimAfter (Nat.log2 d.digits + 1) d

end Decimal

/-- The reals that round to a positive double: `centre`, `low` and `high` are counted in units of
2⁻¹⁰⁷⁶, a quarter of the smallest spacing, so that all three are whole. -/
structure RoundingInterval where
  low : Nat
  centre : Nat
  high : Nat
  closed : Bool

namespace RoundingInterval

/-- The interval of the double with these fields. The spacing below a power of two is half of the
spacing above it. -/
def ofFields (exponent fraction : Nat) : RoundingInterval :=
  let spacing := Nat.pow 2 (exponent - 1)
  let centre := 4 * Double.unitsOf exponent fraction
  let below := if fraction = 0 ∧ 1 < exponent then spacing else 2 * spacing
  ⟨centre - below, centre, centre + 2 * spacing, fraction % 2 = 0⟩

/-- A power of ten as a fraction. -/
def powerOfTen (scale : Int) : Nat × Nat :=
  if scale < 0 then (1, Nat.pow 10 scale.natAbs) else (Nat.pow 10 scale.natAbs, 1)

/-- Does `digits × 10 ^ scale` lie in the interval? -/
def holds (interval : RoundingInterval) (digits : Nat) (scale : Int) : Bool :=
  let ten := powerOfTen scale
  let point := digits * ten.1 * Nat.pow 2 1076
  let low := interval.low * ten.2
  let high := interval.high * ten.2
  if interval.closed then low ≤ point && point ≤ high else low < point && point < high

/-- The decimal exponent of the leading digit of the centre. The smallest double exceeds 10⁻³²⁴, so
that after scaling by 10³²⁴ the whole part has as many digits as the exponent says. -/
def leadingExponent (interval : RoundingInterval) : Int :=
  ((Nat.toDigits 10 (interval.centre * Nat.pow 10 324 / Nat.pow 2 1076)).length : Int) - 325

/-- The nearest point of the grid of spacing `10 ^ scale` that lies in the interval; of two equally
near ones the even one. -/
def nearestOnGrid? (interval : RoundingInterval) (scale : Int) : Option Decimal :=
  let ten := powerOfTen scale
  let unit := ten.1 * Nat.pow 2 1076
  let target := interval.centre * ten.2
  let below := target / unit
  let remainder := target % unit
  let preferBelow :=
    2 * remainder < unit || (2 * remainder == unit && below % 2 == 0)
  match interval.holds below scale, interval.holds (below + 1) scale with
  | true, true => some ⟨if preferBelow then below else below + 1, scale⟩
  | true, false => some ⟨below, scale⟩
  | false, true => some ⟨below + 1, scale⟩
  | false, false => none

/-- The first grid that meets the interval gives the fewest digits; seventeen always suffice. -/
def shortest (interval : RoundingInterval) : Decimal :=
  let exponent := interval.leadingExponent
  let grids := (List.range 17).map fun k : Nat => exponent - (k : Int)
  ((grids.findSome? interval.nearestOnGrid?).getD ⟨0, 0⟩).trim

end RoundingInterval

namespace Double

/-- The shortest decimal that reads back as the double with these fields. -/
def shortestDecimal (exponent fraction : Nat) : Decimal :=
  if exponent = 0 ∧ fraction = 0 then ⟨0, 0⟩
  else (RoundingInterval.ofFields exponent fraction).shortest

end Double

end DerivedQuery
