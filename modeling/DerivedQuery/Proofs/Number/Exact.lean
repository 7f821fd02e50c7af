import DerivedQuery.Value
import Mathlib.Algebra.Order.Field.Basic
import Mathlib.Algebra.Order.Ring.Rat
import Mathlib.Order.WithBot
import Mathlib.Tactic.Positivity

/-!
# Exact comparison of numbers

A finite double is its significand times a power of two. Counting in the smallest units compares
these numbers, and integers of any size with them, without rounding.
-/

set_option autoImplicit false

namespace DerivedQuery

/-- A rational number or an infinity. -/
abbrev ExtendedRational := WithBot (WithTop ℚ)

namespace Double

/-- The number that a double denotes. Subnormal doubles have no leading bit and the least exponent.
-/
def number? : Double → Option ExtendedRational
  | .nan => none
  | .infinite negative => some (if negative then ⊥ else ⊤)
  | .finite negative exponent fraction =>
      let significand : ℚ := if exponent.val = 0 then fraction.val else 2 ^ 52 + fraction.val
      let scale : ℤ := if exponent.val = 0 then -1074 else exponent.val - 1075
      let size : ℚ := significand * 2 ^ scale
      some ((if negative then -size else size : ℚ) : WithTop ℚ)

end Double

namespace Value

/-- The number that an integer or a double denotes. -/
def number? : Value → Option ExtendedRational
  | .long n => some ((n : ℚ) : WithTop ℚ)
  | .double d => d.number?
  | _ => none

end Value

namespace Quantity

/-- The number that a quantity counts. -/
def number : Quantity → ExtendedRational
  | .negativeInfinity => ⊥
  | .units count => ((count / 2 ^ 1074 : ℚ) : WithTop ℚ)
  | .positiveInfinity => ⊤

theorem number_lt_iff {a b : Quantity} : a.number < b.number ↔ a.compare b = .lt := by
  cases a with
  | negativeInfinity => cases b <;> simp [number, compare]
  | positiveInfinity => cases b <;> simp [number, compare]
  | units x =>
      cases b with
      | negativeInfinity => simp [number, compare]
      | positiveInfinity => exact iff_of_true (WithBot.coe_lt_coe.mpr (WithTop.coe_lt_top _)) rfl
      | units y =>
          have positive : (0 : ℚ) < 2 ^ 1074 := by positivity
          have counted : (x / 2 ^ 1074 : ℚ) < y / 2 ^ 1074 ↔ x < y := by
            rw [div_lt_div_iff_of_pos_right positive, Int.cast_lt]
          rw [number, number, WithBot.coe_lt_coe, WithTop.coe_lt_coe, counted, compare]
          split_ifs <;> simp_all

theorem number_injective {a b : Quantity} (same : a.number = b.number) : a = b := by
  have notLess : a.compare b ≠ .lt := fun less => (number_lt_iff.mpr less).ne same
  have notGreater : b.compare a ≠ .lt := fun less => (number_lt_iff.mpr less).ne same.symm
  cases a <;> cases b <;> simp_all [compare]
  omega

theorem number_ofInt (n : Int) : (ofInt n).number = ((n : ℚ) : WithTop ℚ) := by
  have units : ofInt n = .units (n * 2 ^ 1074) := rfl
  have whole : ((n * 2 ^ 1074 : ℤ) / 2 ^ 1074 : ℚ) = n := by
    rw [Int.cast_mul, Int.cast_pow, Int.cast_ofNat, mul_div_assoc, div_self (by positivity), mul_one]
  rw [units, number, whole]

theorem ofInt_injective {m n : Int} (same : ofInt m = ofInt n) : m = n := by
  have numbers := congrArg number same
  rw [number_ofInt, number_ofInt, WithBot.coe_inj, WithTop.coe_inj] at numbers
  exact Int.cast_injective numbers

end Quantity

namespace Double

private theorem unitsOf_div (exponent fraction : Nat) :
    (unitsOf exponent fraction / 2 ^ 1074 : ℚ) =
      (if exponent = 0 then (fraction : ℚ) else 2 ^ 52 + fraction) *
        2 ^ (if exponent = 0 then (-1074 : ℤ) else exponent - 1075) := by
  by_cases subnormal : exponent = 0
  · rw [unitsOf, if_pos subnormal, if_pos subnormal, if_pos subnormal, zpow_neg, zpow_ofNat,
      div_eq_mul_inv]
  · -- A unit is 2⁻¹⁰⁷⁴, and the significand of a normal double is shifted by its exponent less one.
    obtain ⟨shift, rfl⟩ := Nat.exists_eq_succ_of_ne_zero subnormal
    have scale : ((shift.succ : ℕ) : ℤ) - 1075 = shift - 1074 := by omega
    have units : unitsOf shift.succ fraction = (2 ^ 52 + fraction) * 2 ^ shift := rfl
    rw [units, if_neg subnormal, if_neg subnormal, scale, zpow_sub₀ two_ne_zero, zpow_natCast,
      zpow_ofNat, ← mul_div_assoc]
    simp only [Nat.cast_mul, Nat.cast_add, Nat.cast_pow, Nat.cast_ofNat]

/-- A double counts as many units as the number that it denotes. -/
theorem number?_eq_map (d : Double) : d.number? = d.quantity?.map Quantity.number := by
  cases d with
  | nan => rfl
  | infinite negative => cases negative <;> rfl
  | finite negative exponent fraction =>
      have units := unitsOf_div exponent.val fraction.val
      cases negative with
      | false =>
          simp only [number?, quantity?, Option.map_some, Quantity.number, Int.cast_natCast, units]
          rfl
      | true =>
          simp only [number?, quantity?, Option.map_some, Quantity.number, Int.cast_neg,
            Int.cast_natCast, neg_div, units]
          rfl

end Double

end DerivedQuery
