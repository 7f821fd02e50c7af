import DerivedQuery.Proofs.Sorting.Merge
import DerivedQuery.Value.Rank
import Mathlib.Data.List.Lex
import Mathlib.Data.Int.Order.Basic

/-!
# Sort keys form a linear order

The sort keys of values other than NaN are ordered like lists of integers: the rank of the type
first, then the number, the fields of a timestamp, the bytes or the code points. Sorting by them is
therefore sorting by keys from a linear order.
-/

set_option autoImplicit false

namespace DerivedQuery

theorem compareLists_eq_lt_iff {a b : List Nat} :
    compareLists a b = .lt ↔ a.map Int.ofNat < b.map Int.ofNat := by
  induction a generalizing b with
  | nil => cases b <;> simp [compareLists]
  | cons x restA ih =>
      cases b with
      | nil => simp [compareLists]
      | cons y restB =>
          simp only [compareLists, List.map_cons, List.cons_lt_cons_iff, ← ih]
          rcases Nat.lt_trichotomy x y with less | rfl | greater
          · simp [less]
          · simp
          · have different : (x : Int) ≠ y := by omega
            simp [Nat.lt_asymm greater, greater, different]

namespace Quantity

/-- A quantity as a list of integers that is ordered in the same way. -/
def code : Quantity → List Int
  | .negativeInfinity => [0]
  | .units count => [1, count]
  | .positiveInfinity => [2]

theorem compare_eq_lt_iff {a b : Quantity} : a.compare b = .lt ↔ a.code < b.code := by
  cases a with
  | negativeInfinity => cases b <;> simp [compare, code, List.cons_lt_cons_iff]
  | positiveInfinity => cases b <;> simp [compare, code, List.cons_lt_cons_iff]
  | units x =>
      cases b with
      | negativeInfinity => simp [compare, code, List.cons_lt_cons_iff]
      | positiveInfinity => simp [compare, code, List.cons_lt_cons_iff]
      | units y =>
          have ordered : ([1, x] : List Int) < [1, y] ↔ x < y := by simp [List.cons_lt_cons_iff]
          rw [code, code, ordered, compare]
          rcases lt_trichotomy x y with less | rfl | greater
          · rw [if_pos less]
            exact iff_of_true rfl less
          · rw [if_neg (lt_irrefl x), if_pos rfl]
            exact iff_of_false (nomatch ·) (lt_irrefl x)
          · rw [if_neg greater.not_gt, if_neg greater.ne']
            exact iff_of_false (nomatch ·) greater.not_gt

end Quantity

theorem Double.quantity?_of_ne_nan {d : Double} (number : d ≠ .nan) :
    ∃ quantity, d.quantity? = some quantity := by
  rcases d with _ | (_ | _) | ⟨(_ | _), _, _⟩
  · exact absurd rfl number
  all_goals exact ⟨_, rfl⟩

namespace Scalar

/-- A scalar as a list of integers; within a family the order is the same. -/
def code : Scalar → List Int
  | .number quantity => (quantity.map Quantity.code).getD []
  | .timestamp t => t.fields.map Int.ofNat
  | .boolean b => [b.toNat].map Int.ofNat
  | .blob content => (content.map UInt8.toNat).map Int.ofNat
  | .string s => (s.toList.map Char.toNat).map Int.ofNat

/-- The rank of the types whose values are scalars of this family. -/
def family : Scalar → Nat
  | .number _ => 1
  | .timestamp _ => 2
  | .boolean _ => 3
  | .blob _ => 4
  | .string _ => 5

theorem compare?_eq_lt_iff {x y : Scalar} (same : x.family = y.family)
    (left : x ≠ .number none) (right : y ≠ .number none) :
    x.compare? y = some .lt ↔ x.code < y.code := by
  cases x with
  | number a =>
      cases y <;> simp [family] at same
      next b =>
        rcases a with _ | a
        · exact absurd rfl left
        rcases b with _ | b
        · exact absurd rfl right
        simpa [compare?, code] using Quantity.compare_eq_lt_iff
  | timestamp t =>
      cases y <;> simp [family] at same
      simpa only [compare?, code, DateTime.compare, Option.some.injEq] using compareLists_eq_lt_iff
  | boolean b =>
      cases y <;> simp [family] at same
      simpa only [compare?, code, Option.some.injEq] using compareLists_eq_lt_iff
  | blob content =>
      cases y <;> simp [family] at same
      simpa only [compare?, code, compareBytes, Option.some.injEq] using compareLists_eq_lt_iff
  | string s =>
      cases y <;> simp [family] at same
      simpa only [compare?, code, compareTexts, Option.some.injEq] using compareLists_eq_lt_iff

end Scalar

namespace Value

def Orderable (value : Value) : Prop := value ≠ .double .nan

theorem rank_eq_family {value : Value} {x : Scalar} (scalar : value.scalar? = some x) :
    value.rank = x.family := by
  cases value <;> simp only [scalar?, Option.some.injEq, reduceCtorEq] at scalar <;>
    exact scalar ▸ rfl

theorem rank_ne_family {value : Value} (none : value.scalar? = none) (x : Scalar) :
    value.rank ≠ x.family := by
  cases value <;> simp only [scalar?, reduceCtorEq] at none <;> cases x <;>
    simp [Value.rank, Scalar.family]

theorem scalar_ne_of_orderable {value : Value} (orderable : value.Orderable) {x : Scalar}
    (scalar : value.scalar? = some x) : x ≠ .number none := by
  rintro rfl
  cases value <;> simp only [scalar?, Option.some.injEq, Scalar.number.injEq, reduceCtorEq] at scalar
  next d =>
    obtain ⟨quantity, found⟩ := Double.quantity?_of_ne_nan fun nan => orderable (congrArg _ nan)
    simp [found] at scalar

namespace Rank

/-- A sort key as a list of integers. -/
def code (key : Rank) : List Int := Int.ofNat key.rank :: (key.scalar.map Scalar.code).getD []

/-- Is this the sort key of a value other than NaN? -/
def Sortable (key : Rank) : Prop := ∃ value : Value, value.Orderable ∧ value.sortRank = key

theorem less_iff_of_rank_ne {a b : Rank} (different : a.rank ≠ b.rank) :
    a.less b = true ↔ a.code < b.code := by
  have apart : (a.rank : Int) ≠ b.rank := by omega
  rcases Nat.lt_or_gt_of_ne different with lt | gt
  · simp [less, code, List.cons_lt_cons_iff, lt]
  · simp [less, code, List.cons_lt_cons_iff, gt, Nat.lt_asymm gt, apart]

theorem less_iff_of_rank_eq {a b : Rank} (same : a.rank = b.rank) :
    a.less b = true ↔ ∃ x y, a.scalar = some x ∧ b.scalar = some y ∧ x.compare? y = some .lt := by
  simp only [less, same, Nat.lt_irrefl, if_false]
  cases a.scalar <;> cases b.scalar <;> simp

theorem code_lt_of_rank_eq {a b : Rank} (same : a.rank = b.rank) :
    a.code < b.code ↔ (a.scalar.map Scalar.code).getD [] < (b.scalar.map Scalar.code).getD [] := by
  simp [code, same]

/-- On the sort keys of values other than NaN, the order of sort keys is that of their codes. -/
theorem less_iff_code_lt {a b : Rank} (left : a.Sortable) (right : b.Sortable) :
    a.less b = true ↔ a.code < b.code := by
  by_cases same : a.rank = b.rank
  · rw [less_iff_of_rank_eq same, code_lt_of_rank_eq same]
    obtain ⟨v, orderableV, rfl⟩ := left
    obtain ⟨w, orderableW, rfl⟩ := right
    simp only [sortRank] at same ⊢
    cases scalarV : v.scalar? with
    | none =>
        cases scalarW : w.scalar? with
        | none => simp
        | some y => exact absurd (same.trans (rank_eq_family scalarW)) (rank_ne_family scalarV y)
    | some x =>
        cases scalarW : w.scalar? with
        | none =>
            exact absurd (same.symm.trans (rank_eq_family scalarV)) (rank_ne_family scalarW x)
        | some y =>
            have families : x.family = y.family := by
              rw [← rank_eq_family scalarV, ← rank_eq_family scalarW, same]
            have codes := Scalar.compare?_eq_lt_iff families
              (scalar_ne_of_orderable orderableV scalarV)
              (scalar_ne_of_orderable orderableW scalarW)
            simpa using codes
  · exact less_iff_of_rank_ne same

/-- Sort keys of values other than NaN are sorted by keys from a linear order. -/
theorem ordersByKey : OrdersByKey less Sortable code := ⟨less_iff_code_lt⟩

end Rank

end Value

end DerivedQuery
