import DerivedQuery.Proofs.Number.Exact
import DerivedQuery.Proofs.Value.SortKey
import Mathlib.Order.Compare

/-!
# One order for sorting and filtering

The sort keys of values other than NaN can always be compared, and they are ordered by rank first and
then like lists of integers, so that sorting follows a total preorder. Within a family, the
conditions of filters hold of two values as their sort keys lie.
-/

set_option autoImplicit false

namespace DerivedQuery

theorem compareLists_swap (a b : List Nat) : (compareLists a b).swap = compareLists b a := by
  induction a generalizing b with
  | nil => cases b <;> rfl
  | cons x restA ih =>
      cases b with
      | nil => rfl
      | cons y restB =>
          rw [compareLists, compareLists]
          rcases Nat.lt_trichotomy x y with less | rfl | greater
          · simp [less, Nat.lt_asymm less]
          · simpa using ih restB
          · simp [greater, Nat.lt_asymm greater]

theorem Quantity.compare_swap (a b : Quantity) : (a.compare b).swap = b.compare a := by
  cases a with
  | negativeInfinity => cases b <;> rfl
  | positiveInfinity => cases b <;> rfl
  | units x =>
      cases b with
      | negativeInfinity => rfl
      | positiveInfinity => rfl
      | units y =>
          rw [compare, compare]
          rcases lt_trichotomy x y with less | rfl | greater
          · simp [less, less.not_gt, less.ne']
          · simp
          · simp [greater, greater.not_gt, greater.ne']

namespace Quantity

theorem code_injective {a b : Quantity} (same : a.code = b.code) : a = b := by
  cases a <;> cases b <;> simp_all [code]

end Quantity

theorem DateTime.fields_injective {a b : DateTime} (same : a.fields = b.fields) : a = b := by
  obtain ⟨⟨year, month, day, _, _, _⟩, hour, minute, second, microsecond⟩ := a
  obtain ⟨⟨year', month', day', _, _, _⟩, hour', minute', second', microsecond'⟩ := b
  simp only [fields, List.cons.injEq, and_true, Fin.val_inj] at same
  obtain ⟨rfl, rfl, rfl, rfl, rfl, rfl, rfl⟩ := same
  rfl

namespace Scalar

variable {x y : Scalar}

theorem compare?_swap (x y : Scalar) : (x.compare? y).map Ordering.swap = y.compare? x := by
  cases x with
  | number a =>
      cases y with
      | number b =>
          cases a <;> cases b <;> simp [compare?, Quantity.compare_swap]
      | _ => simp [compare?]
  | timestamp a => cases y <;> simp [compare?, DateTime.compare, compareLists_swap]
  | boolean a => cases y <;> simp [compare?, compareLists_swap]
  | blob a => cases y <;> simp [compare?, compareBytes, compareLists_swap]
  | string a => cases y <;> simp [compare?, compareTexts, compareLists_swap]

theorem exists_compare? (same : x.family = y.family) (left : x ≠ .number none)
    (right : y ≠ .number none) : ∃ order, x.compare? y = some order := by
  cases x with
  | number a =>
      cases y <;> simp [family] at same
      next b => cases a <;> cases b <;> simp_all [compare?]
  | timestamp a => cases y <;> simp [family] at same; exact ⟨_, rfl⟩
  | boolean a => cases y <;> simp [family] at same; exact ⟨_, rfl⟩
  | blob a => cases y <;> simp [family] at same; exact ⟨_, rfl⟩
  | string a => cases y <;> simp [family] at same; exact ⟨_, rfl⟩

/-- Within a family, scalars are compared as their codes are. -/
theorem compare?_compares (same : x.family = y.family) (left : x ≠ .number none)
    (right : y ≠ .number none) :
    ∃ order, x.compare? y = some order ∧ order.Compares x.code y.code := by
  obtain ⟨order, compared⟩ := exists_compare? same left right
  have back : y.compare? x = some order.swap := by rw [← compare?_swap, compared]; rfl
  have ahead_iff := compare?_eq_lt_iff same left right
  have back_iff := compare?_eq_lt_iff same.symm right left
  rw [compared] at ahead_iff
  rw [back] at back_iff
  refine ⟨order, compared, ?_⟩
  cases order with
  | lt => exact ahead_iff.mp rfl
  | gt => exact back_iff.mp rfl
  | eq =>
      have notAhead : ¬ x.code < y.code := fun less => nomatch ahead_iff.mpr less
      have notBack : ¬ y.code < x.code := fun less => nomatch back_iff.mpr less
      exact le_antisymm (not_lt.mp notBack) (not_lt.mp notAhead)

theorem code_injective (same : x.family = y.family) (left : x ≠ .number none)
    (right : y ≠ .number none) (codes : x.code = y.code) : x = y := by
  cases x with
  | number a =>
      cases y <;> simp [family] at same
      next b =>
        cases a with
        | none => exact absurd rfl left
        | some a =>
            cases b with
            | none => exact absurd rfl right
            | some b => rw [Quantity.code_injective codes]
  | timestamp t =>
      cases y <;> simp [family] at same
      rw [DateTime.fields_injective (List.map_injective_iff.mpr Int.ofNat_injective codes)]
  | boolean b =>
      cases y <;> simp [family] at same
      next c => cases b <;> cases c <;> simp_all [code]
  | blob content =>
      cases y <;> simp [family] at same
      have bytes := List.map_injective_iff.mpr Int.ofNat_injective codes
      rw [List.map_injective_iff.mpr (fun a b => UInt8.toNat_inj.mp) bytes]
  | string s =>
      cases y <;> simp [family] at same
      have chars := List.map_injective_iff.mpr Int.ofNat_injective codes
      rw [String.toList_injective (List.map_injective_iff.mpr (fun a b => Char.toNat_inj.mp) chars)]

end Scalar

namespace Value

variable {a b c : Value} {x y : Scalar}

/-- The first value does not come behind the second when they are sorted. -/
def Precedes (a b : Value) : Prop := b.sortRank.less a.sortRank = false

namespace Rank

/-- The order of two sort keys; `none` where what stands behind equal ranks cannot be compared. -/
def compare? (a b : Rank) : Option Ordering :=
  if a.rank < b.rank then some .lt
  else if b.rank < a.rank then some .gt
  else
    match a.scalar, b.scalar with
    | none, none => some .eq
    | some x, some y => x.compare? y
    | _, _ => none

theorem compares_cons {order : Ordering} {rank : Int} {front back : List Int}
    (compares : order.Compares front back) : order.Compares (rank :: front) (rank :: back) := by
  cases order with
  | lt => exact List.cons_lt_cons_iff.mpr (.inr ⟨rfl, compares⟩)
  | eq => exact congrArg _ compares
  | gt => exact List.cons_lt_cons_iff.mpr (.inr ⟨rfl, compares⟩)

/-- The sort keys of values other than NaN can be compared, and compare as their codes do. -/
theorem compare?_compares {a b : Rank} (left : a.Sortable) (right : b.Sortable) :
    ∃ order, a.compare? b = some order ∧ order.Compares a.code b.code := by
  rcases lt_trichotomy a.rank b.rank with less | same | greater
  · refine ⟨.lt, if_pos less, ?_⟩
    exact List.cons_lt_cons_iff.mpr (.inl (Int.ofNat_lt.mpr less))
  · -- Of two values of one rank, both are scalars of one family or none is a scalar.
    obtain ⟨v, orderableV, rfl⟩ := left
    obtain ⟨w, orderableW, rfl⟩ := right
    have ranks : v.rank = w.rank := same
    simp only [compare?, lt_irrefl, if_false, code, sortRank, ranks]
    cases scalarV : v.scalar? with
    | none =>
        cases scalarW : w.scalar? with
        | none => exact ⟨.eq, rfl, rfl⟩
        | some y => exact absurd (ranks.trans (rank_eq_family scalarW)) (rank_ne_family scalarV y)
    | some x =>
        cases scalarW : w.scalar? with
        | none =>
            exact absurd (ranks.symm.trans (rank_eq_family scalarV)) (rank_ne_family scalarW x)
        | some y =>
            have families : x.family = y.family := by
              rw [← rank_eq_family scalarV, ← rank_eq_family scalarW, ranks]
            obtain ⟨order, compared, compares⟩ := Scalar.compare?_compares families
              (scalar_ne_of_orderable orderableV scalarV) (scalar_ne_of_orderable orderableW scalarW)
            exact ⟨order, compared, compares_cons compares⟩
  · refine ⟨.gt, by simp [compare?, greater, greater.not_gt], ?_⟩
    exact List.cons_lt_cons_iff.mpr (.inl (Int.ofNat_lt.mpr greater))

end Rank

theorem Orderable.sortable (orderable : a.Orderable) : a.sortRank.Sortable := ⟨a, orderable, rfl⟩

theorem precedes_iff (left : a.Orderable) (right : b.Orderable) :
    a.Precedes b ↔ a.sortRank.code ≤ b.sortRank.code := by
  rw [Precedes, ← Bool.not_eq_true, Rank.less_iff_code_lt right.sortable left.sortable, not_lt]

theorem precedes_total (left : a.Orderable) (right : b.Orderable) :
    a.Precedes b ∨ b.Precedes a := by
  rw [precedes_iff left right, precedes_iff right left]
  exact le_total _ _

theorem Precedes.trans (orderableA : a.Orderable) (orderableB : b.Orderable)
    (orderableC : c.Orderable) (first : a.Precedes b) (second : b.Precedes c) : a.Precedes c := by
  rw [precedes_iff orderableA orderableC]
  exact ((precedes_iff orderableA orderableB).mp first).trans
    ((precedes_iff orderableB orderableC).mp second)

theorem family_eq_of_sameFamily (family : a.sameFamily b = true) (scalarA : a.scalar? = some x)
    (scalarB : b.scalar? = some y) : x.family = y.family := by
  rw [← rank_eq_family scalarA, ← rank_eq_family scalarB]
  cases a <;> cases b <;> first | rfl | simp [sameFamily, type] at family

theorem exists_scalar_of_sameFamily (family : a.sameFamily b = true)
    (scalarA : a.scalar? = some x) : ∃ y, b.scalar? = some y := by
  cases b <;> first | exact ⟨_, rfl⟩ | (cases a <;> simp [sameFamily, type, scalar?] at family scalarA)

theorem sameFamily_symm (family : a.sameFamily b = true) : b.sameFamily a = true := by
  cases a <;> cases b <;> first | rfl | simp [sameFamily, type] at family

private theorem plainEqual_of_number {p q : Quantity}
    (scalarA : a.scalar? = some (.number (some p))) (scalarB : b.scalar? = some (.number (some q))) :
    a.plainEqual b = (p == q) := by
  have quantity {v : Value} {r : Quantity} (scalar : v.scalar? = some (.number (some r))) :
      v.quantity? = some r := by
    cases v <;> simp only [scalar?, Option.some.injEq, Scalar.number.injEq, reduceCtorEq] at scalar
    · exact scalar ▸ rfl
    · exact scalar
  have quantityA := quantity scalarA
  have quantityB := quantity scalarB
  cases a <;> simp only [scalar?, Option.some.injEq, reduceCtorEq] at scalarA
  all_goals
    cases b <;> simp only [scalar?, Option.some.injEq, reduceCtorEq] at scalarB
    all_goals simp [plainEqual, quantityA, quantityB]

private theorem plainEqual_boolean (b c : Bool) :
    (boolean b).plainEqual (boolean c) = true ↔ b = c := by
  have apart : Quantity.ofInt 1 ≠ Quantity.ofInt 0 := fun same =>
    absurd (Quantity.ofInt_injective same) (by decide)
  cases b <;> cases c <;> simp [plainEqual, quantity?, apart, apart.symm]

/-- Within a family, the plain data of values other than NaN are equal when the scalars are. -/
theorem plainEqual_iff (families : x.family = y.family) (left : a.Orderable)
    (right : b.Orderable) (scalarA : a.scalar? = some x) (scalarB : b.scalar? = some y) :
    a.plainEqual b = true ↔ x = y := by
  have numberX := scalar_ne_of_orderable left scalarA
  have numberY := scalar_ne_of_orderable right scalarB
  cases x with
  | number p =>
      cases y <;> simp [Scalar.family] at families
      next q =>
        cases p with
        | none => exact absurd rfl numberX
        | some p =>
            cases q with
            | none => exact absurd rfl numberY
            | some q => simp [plainEqual_of_number scalarA scalarB]
  | boolean c =>
      cases y <;> simp [Scalar.family] at families
      cases a <;> simp only [scalar?, Option.some.injEq, reduceCtorEq] at scalarA
      cases b <;> simp only [scalar?, Option.some.injEq, reduceCtorEq] at scalarB
      rw [← scalarA, ← scalarB, plainEqual_boolean, Scalar.boolean.injEq]
  | _ =>
      cases y <;> simp [Scalar.family] at families
      cases a <;> simp only [scalar?, Option.some.injEq, reduceCtorEq] at scalarA
      cases b <;> simp only [scalar?, Option.some.injEq, reduceCtorEq] at scalarB
      rw [← scalarA, ← scalarB]
      simp [plainEqual]

/-- Within a family, a condition holds of two values as their scalars lie. -/
theorem satisfies_eq_holds (family : a.sameFamily b = true) (left : a.Orderable)
    (right : b.Orderable) (scalarA : a.scalar? = some x) (scalarB : b.scalar? = some y)
    {order : Ordering} (compared : x.compare? y = some order) (comparison : Comparison) :
    a.satisfies comparison b = comparison.holds order := by
  have families := family_eq_of_sameFamily family scalarA scalarB
  have single : a.satisfies comparison b = a.scalarMatches comparison b := by
    cases a <;> first | rfl | exact nomatch scalarA
  obtain ⟨found, again, compares⟩ := Scalar.compare?_compares families
    (scalar_ne_of_orderable left scalarA) (scalar_ne_of_orderable right scalarB)
  obtain rfl := Option.some.inj (compared.symm.trans again)
  rw [single]
  cases comparison with
  | equal =>
      -- This condition alone is decided on plain data and not on scalars.
      have equal_iff : x = y ↔ order = .eq := by
        rw [compares.eq_eq]
        refine ⟨congrArg Scalar.code, Scalar.code_injective families ?_ ?_⟩
        · exact scalar_ne_of_orderable left scalarA
        · exact scalar_ne_of_orderable right scalarB
      rw [scalarMatches, family, Bool.true_and, Bool.eq_iff_iff,
        plainEqual_iff families left right scalarA scalarB, equal_iff]
      cases order <;> simp [Comparison.holds]
  | _ => simp [scalarMatches, scalarA, scalarB, compared]

/-- Within a family, filters compare two values as sorting does. -/
theorem satisfies_compares (family : a.sameFamily b = true) (left : a.Orderable)
    (right : b.Orderable) (scalar : a.scalar?.isSome = true) :
    ∃ order : Ordering, order.Compares a.sortRank.code b.sortRank.code ∧
      ∀ comparison : Comparison, a.satisfies comparison b = comparison.holds order := by
  obtain ⟨x, scalarA⟩ := Option.isSome_iff_exists.mp scalar
  obtain ⟨y, scalarB⟩ := exists_scalar_of_sameFamily family scalarA
  have families := family_eq_of_sameFamily family scalarA scalarB
  have ranks : a.rank = b.rank := by rw [rank_eq_family scalarA, rank_eq_family scalarB, families]
  obtain ⟨order, compared, compares⟩ := Scalar.compare?_compares families
    (scalar_ne_of_orderable left scalarA) (scalar_ne_of_orderable right scalarB)
  refine ⟨order, ?_, satisfies_eq_holds family left right scalarA scalarB compared⟩
  simp only [Rank.code, sortRank, ranks, scalarA, scalarB, Option.map_some, Option.getD_some]
  exact Rank.compares_cons compares

theorem satisfies_iff_less (family : a.sameFamily b = true) (left : a.Orderable)
    (right : b.Orderable) (scalar : a.scalar?.isSome = true) :
    (a.satisfies .less b = true ↔ a.sortRank.less b.sortRank = true) ∧
      (b.satisfies .greater a = true ↔ a.sortRank.less b.sortRank = true) ∧
      (a.satisfies .equal b = true ↔
        a.sortRank.less b.sortRank = false ∧ b.sortRank.less a.sortRank = false) := by
  obtain ⟨x, scalarA⟩ := Option.isSome_iff_exists.mp scalar
  obtain ⟨y, scalarB⟩ := exists_scalar_of_sameFamily family scalarA
  obtain ⟨order, compares, holds⟩ := satisfies_compares family left right scalar
  obtain ⟨back, comparesBack, holdsBack⟩ :=
    satisfies_compares (sameFamily_symm family) right left (by simp [scalarB])
  obtain rfl : back = order.swap := comparesBack.inj compares.swap
  rw [holds, holds, holdsBack, ← Bool.not_eq_true, ← Bool.not_eq_true,
    Rank.less_iff_code_lt left.sortable right.sortable,
    Rank.less_iff_code_lt right.sortable left.sortable, ← compares.eq_lt, ← compares.eq_gt]
  cases order <;> simp [Comparison.holds]

/-- The condition of being at most a value holds where the value does not come before. -/
theorem satisfies_lessOrEqual_iff (family : a.sameFamily b = true) (left : a.Orderable)
    (right : b.Orderable) (scalar : a.scalar?.isSome = true) :
    a.satisfies .lessOrEqual b = true ↔ a.Precedes b := by
  obtain ⟨order, compares, holds⟩ := satisfies_compares family left right scalar
  rw [holds, precedes_iff left right, ← compares.ne_gt]
  cases order <;> simp [Comparison.holds]

/-- What lies below a bound of its family keeps everything that comes before it below the bound. -/
theorem satisfies_of_precedes {bound : Value} {comparison : Comparison}
    (below : comparison ∈ [Comparison.less, .lessOrEqual]) (orderable : bound.Orderable)
    (scalar : bound.scalar?.isSome = true) (orderableA : a.Orderable) (orderableB : b.Orderable)
    (familyA : a.sameFamily bound = true) (familyB : b.sameFamily bound = true)
    (precedes : a.Precedes b) (satisfies : b.satisfies comparison bound = true) :
    a.satisfies comparison bound = true := by
  have scalarOf {v : Value} (family : v.sameFamily bound = true) : v.scalar?.isSome = true := by
    obtain ⟨x, isScalar⟩ := Option.isSome_iff_exists.mp scalar
    obtain ⟨y, found⟩ := exists_scalar_of_sameFamily (sameFamily_symm family) isScalar
    exact Option.isSome_iff_exists.mpr ⟨y, found⟩
  rcases List.mem_pair.mp below with rfl | rfl
  · rw [(satisfies_iff_less familyB orderableB orderable (scalarOf familyB)).1,
      Rank.less_iff_code_lt orderableB.sortable orderable.sortable] at satisfies
    rw [(satisfies_iff_less familyA orderableA orderable (scalarOf familyA)).1,
      Rank.less_iff_code_lt orderableA.sortable orderable.sortable]
    exact lt_of_le_of_lt ((precedes_iff orderableA orderableB).mp precedes) satisfies
  · rw [satisfies_lessOrEqual_iff familyB orderableB orderable (scalarOf familyB)] at satisfies
    rw [satisfies_lessOrEqual_iff familyA orderableA orderable (scalarOf familyA)]
    exact precedes.trans orderableA orderableB orderable satisfies

private theorem scalar?_of_number? {p : ExtendedRational} (number : a.number? = some p) :
    ∃ quantity, a.scalar? = some (.number (some quantity)) ∧ quantity.number = p := by
  cases a with
  | long n =>
      obtain rfl := Option.some.inj number
      exact ⟨Quantity.ofInt n, rfl, Quantity.number_ofInt n⟩
  | double d =>
      rw [Value.number?, Double.number?_eq_map] at number
      obtain ⟨quantity, counts, isNumber⟩ := Option.map_eq_some_iff.mp number
      exact ⟨quantity, by rw [scalar?, counts], isNumber⟩
  | _ => simp [number?] at number

/-- Integers and doubles are sorted by the numbers that they denote, without rounding. -/
theorem less_iff_number_lt {p q : ExtendedRational} (numberA : a.number? = some p)
    (numberB : b.number? = some q) : a.sortRank.less b.sortRank = true ↔ p < q := by
  obtain ⟨s, scalarA, rfl⟩ := scalar?_of_number? numberA
  obtain ⟨t, scalarB, rfl⟩ := scalar?_of_number? numberB
  have ranks : a.sortRank.rank = b.sortRank.rank :=
    (rank_eq_family scalarA).trans (rank_eq_family scalarB).symm
  rw [Rank.less_iff_of_rank_eq ranks, Quantity.number_lt_iff]
  simp [sortRank, scalarA, scalarB, Scalar.compare?]

end Value

end DerivedQuery
