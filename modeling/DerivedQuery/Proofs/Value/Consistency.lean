import DerivedQuery.Proofs.Value.Leaf
import DerivedQuery.Proofs.Value.Order

/-!
# The conditions agree

Each leaf of a stored value meets the conditions against a target of an ordered type as one order of
the two has it, or it meets none of them. All five conditions therefore fit together on every stored
value, although equality and the ranges are decided in different ways.
-/

set_option autoImplicit false

namespace DerivedQuery

/-- The types whose values have an order. -/
def ValueType.Ordered (type : ValueType) : Prop :=
  type ∈ [ValueType.long, .double, .timestamp, .boolean, .blob, .string]

instance (type : ValueType) : Decidable type.Ordered :=
  inferInstanceAs (Decidable (type ∈ [ValueType.long, .double, .timestamp, .boolean, .blob, .string]))

namespace Comparison

theorem holds_greaterOrEqual (order : Ordering) :
    greaterOrEqual.holds order = true ↔ greater.holds order = true ∨ equal.holds order = true := by
  cases order <;> decide

theorem holds_lessOrEqual (order : Ordering) :
    lessOrEqual.holds order = true ↔ less.holds order = true ∨ equal.holds order = true := by
  cases order <;> decide

/-- The condition that says no more and no less than what the order is. -/
def exact : Ordering → Comparison
  | .lt => .less
  | .eq => .equal
  | .gt => .greater

theorem holds_iff_exact {comparison : Comparison}
    (strict : comparison ∈ [Comparison.less, .equal, .greater]) (order : Ordering) :
    comparison.holds order = true ↔ comparison = exact order := by
  revert strict
  cases comparison <;> cases order <;> decide

end Comparison

theorem Scalar.compare?_eq_none {x y : Scalar} (apart : x.family ≠ y.family) :
    x.compare? y = none := by
  cases x <;> cases y <;> simp_all [family, compare?]

theorem Scalar.compare?_nan (x : Scalar) : (number none).compare? x = none := by
  cases x <;> rfl

namespace Value

variable {leaf stored target : Value} {comparison : Comparison}

theorem isSome_scalar?_iff : target.scalar?.isSome = true ↔ target.type.Ordered := by
  cases target <;> simp [scalar?, type, ValueType.Ordered]

theorem scalar?_eq_none_iff : target.scalar? = none ↔ ¬ target.type.Ordered := by
  rw [← isSome_scalar?_iff, Option.not_isSome_iff_eq_none]

theorem scalarMatches_range_iff (range : comparison ≠ .equal) :
    leaf.scalarMatches comparison target = true ↔
      ∃ x y order, leaf.scalar? = some x ∧ target.scalar? = some y ∧
        x.compare? y = some order ∧ comparison.holds order = true := by
  have decided : leaf.scalarMatches comparison target = (leaf.scalar?.bind fun x =>
      target.scalar?.bind fun y => (x.compare? y).map comparison.holds).getD false := by
    cases comparison with
    | equal => exact absurd rfl range
    | _ =>
        cases scalarLeaf : leaf.scalar? with
        | none => simp [scalarMatches, scalarLeaf]
        | some x => cases scalarTarget : target.scalar? <;>
            simp [scalarMatches, scalarLeaf, scalarTarget]
  rw [decided]
  cases leaf.scalar? with
  | none => simp
  | some x =>
      cases target.scalar? with
      | none => simp
      | some y => cases compared : x.compare? y <;> simp [compared]

theorem scalarMatches_eq_false
    (unequal : (leaf.sameFamily target && leaf.plainEqual target) = false)
    (incomparable : ∀ x y, leaf.scalar? = some x → target.scalar? = some y →
      x.compare? y = none) :
    leaf.scalarMatches comparison target = false := by
  by_cases range : comparison = .equal
  · subst range
    exact unequal
  · rw [← Bool.not_eq_true, scalarMatches_range_iff range]
    rintro ⟨x, y, order, scalarLeaf, scalarTarget, compared, -⟩
    rw [incomparable x y scalarLeaf scalarTarget] at compared
    cases compared

theorem scalarMatches_nan : leaf.scalarMatches comparison (.double .nan) = false := by
  refine scalarMatches_eq_false ?_ fun x y _ isNan => ?_
  · cases leaf <;> simp [plainEqual, quantity?, Double.quantity?]
  · obtain rfl := Option.some.inj isNan
    cases x with
    | number quantity => cases quantity <;> rfl
    | _ => rfl

theorem nan_scalarMatches : (double .nan).scalarMatches comparison target = false := by
  refine scalarMatches_eq_false ?_ fun x y isNan _ => ?_
  · cases target <;> simp [plainEqual, quantity?, Double.quantity?]
  · obtain rfl := Option.some.inj isNan
    exact Scalar.compare?_nan y

theorem sameFamily_iff_rank_eq : leaf.sameFamily target = true ↔ leaf.rank = target.rank := by
  cases leaf <;> cases target <;> simp [sameFamily, type, rank]

theorem scalarMatches_of_apart (apart : leaf.sameFamily target = false) :
    leaf.scalarMatches comparison target = false := by
  refine scalarMatches_eq_false ?_ fun x y scalarLeaf scalarTarget => ?_
  · rw [apart, Bool.false_and]
  · refine Scalar.compare?_eq_none ?_
    rw [← rank_eq_family scalarLeaf, ← rank_eq_family scalarTarget]
    intro ranks
    exact Bool.false_ne_true (apart.symm.trans (sameFamily_iff_rank_eq.mpr ranks))

/-- Against a target of an ordered type, a value that is no list meets no condition at all or meets
each one as the order of the two has it. -/
theorem scalarMatches_by_order (single : leaf.type ≠ .list) (ordered : target.type.Ordered) :
    (∀ comparison, leaf.scalarMatches comparison target = false) ∨
      ∃ order, ∀ comparison : Comparison,
        leaf.scalarMatches comparison target = comparison.holds order := by
  by_cases nanLeaf : leaf = .double .nan
  · exact .inl fun _ => nanLeaf ▸ nan_scalarMatches
  by_cases nanTarget : target = .double .nan
  · exact .inl fun _ => nanTarget ▸ scalarMatches_nan
  cases family : leaf.sameFamily target with
  | false => exact .inl fun _ => scalarMatches_of_apart family
  | true =>
      obtain ⟨y, scalarTarget⟩ := Option.isSome_iff_exists.mp (isSome_scalar?_iff.mpr ordered)
      obtain ⟨x, scalarLeaf⟩ := exists_scalar_of_sameFamily (sameFamily_symm family) scalarTarget
      obtain ⟨order, -, holds⟩ :=
        satisfies_compares family nanLeaf nanTarget (Option.isSome_iff_exists.mpr ⟨x, scalarLeaf⟩)
      refine .inr ⟨order, fun comparison => ?_⟩
      rw [← satisfies_single single, holds]

/-- What holds of the orders of two scalars for three conditions holds of stored values. -/
theorem satisfies_or_iff {wide narrow : Comparison}
    (split : ∀ order, wide.holds order = true ↔ narrow.holds order = true ∨
      Comparison.equal.holds order = true)
    (ordered : target.type.Ordered) :
    stored.satisfies wide target = true ↔
      stored.satisfies narrow target = true ∨ stored.satisfies .equal target = true := by
  rw [satisfies_iff_leaf, satisfies_iff_leaf, satisfies_iff_leaf, ← exists_or]
  refine exists_congr fun leaf => ?_
  rw [← and_or_left]
  refine and_congr_right fun inside => ?_
  rcases scalarMatches_by_order inside.type_ne ordered with none | ⟨order, holds⟩
  · simp [none]
  · rw [holds, holds, holds, split]

/-- Targets without an order lie in no range. -/
theorem satisfies_range_eq_false (unordered : ¬ target.type.Ordered)
    (range : comparison ≠ .equal) : stored.satisfies comparison target = false := by
  refine satisfies_eq_false fun leaf _ => ?_
  rw [← Bool.not_eq_true, scalarMatches_range_iff range, scalar?_eq_none_iff.mpr unordered]
  simp

theorem satisfies_nan : stored.satisfies comparison (.double .nan) = false :=
  satisfies_eq_false fun _ _ => scalarMatches_nan

/-- Of two values of one ordered family, the one is less than, equal to or greater than the other. -/
theorem satisfies_trichotomy (family : stored.sameFamily target = true)
    (ordered : target.type.Ordered) (number : stored ≠ .double .nan)
    (numberTarget : target ≠ .double .nan) :
    ∃! comparison, comparison ∈ [Comparison.less, .equal, .greater] ∧
      stored.satisfies comparison target = true := by
  obtain ⟨y, scalarTarget⟩ := Option.isSome_iff_exists.mp (isSome_scalar?_iff.mpr ordered)
  obtain ⟨x, scalarStored⟩ := exists_scalar_of_sameFamily (sameFamily_symm family) scalarTarget
  obtain ⟨order, -, holds⟩ :=
    satisfies_compares family number numberTarget (Option.isSome_iff_exists.mpr ⟨x, scalarStored⟩)
  have strict : Comparison.exact order ∈ [Comparison.less, .equal, .greater] := by
    cases order <;> decide
  refine ⟨Comparison.exact order, ⟨strict, ?_⟩, ?_⟩
  · rw [holds, Comparison.holds_iff_exact strict]
  · rintro comparison ⟨member, holdsOther⟩
    rwa [holds, Comparison.holds_iff_exact member] at holdsOther

/-- The conditions of filters are consistent. Comparing a stored datum that has a store value never
fails. Against a target of an ordered type, at least means greater or equal and at most means less or
equal; against null, an entity or a list no range is met, and against a NaN nothing is. A value that
is no list and its target, where both are of one ordered family and neither is a NaN, are in exactly
one of the three relations. -/
theorem conditions_consistent (stored target : Value) :
    (∀ record field datum, Dictionary.get? record field = some datum → datum.wrap = .ok stored →
      ∀ comparison, (Filter.property field comparison target).matches? record =
        .ok (stored.satisfies comparison target)) ∧
    (target.type.Ordered →
      (stored.satisfies .greaterOrEqual target = true ↔
        stored.satisfies .greater target = true ∨ stored.satisfies .equal target = true) ∧
      (stored.satisfies .lessOrEqual target = true ↔
        stored.satisfies .less target = true ∨ stored.satisfies .equal target = true)) ∧
    (target.type ∈ [ValueType.null, .entity, .list] →
      ∀ comparison ∈ [Comparison.greater, .greaterOrEqual, .less, .lessOrEqual],
        stored.satisfies comparison target = false) ∧
    (target = .double .nan → ∀ comparison, stored.satisfies comparison target = false) ∧
    (stored.sameFamily target = true → target.type.Ordered → stored ≠ .double .nan →
      target ≠ .double .nan →
      ∃! comparison, comparison ∈ [Comparison.less, .equal, .greater] ∧
        stored.satisfies comparison target = true) := by
  refine ⟨?_, fun ordered => ⟨?_, ?_⟩, fun unordered comparison range => ?_, ?_, ?_⟩
  · exact fun record field datum found wrapped comparison =>
      Filter.matches?_property found wrapped comparison target
  · exact satisfies_or_iff Comparison.holds_greaterOrEqual ordered
  · exact satisfies_or_iff Comparison.holds_lessOrEqual ordered
  · refine satisfies_range_eq_false ?_ ?_
    · revert unordered
      cases target.type <;> decide
    · rintro rfl
      exact absurd range (by decide)
  · rintro rfl comparison
    exact satisfies_nan
  · exact satisfies_trichotomy

/-- A rating of two is in one relation to the double 2 only, and is at least as large because it is
equal. A list with null in it is in no range of null, and a NaN is not even equal to itself. -/
theorem conditions_consistent_two :
    (Filter.property "rating" .less (.double (.finite false 1024 0))).matches?
        [("rating", .integer 2)] =
      .ok ((long 2).satisfies .less (.double (.finite false 1024 0))) ∧
    ((long 2).satisfies .greaterOrEqual (.double (.finite false 1024 0)) = true ↔
      (long 2).satisfies .greater (.double (.finite false 1024 0)) = true ∨
        (long 2).satisfies .equal (.double (.finite false 1024 0)) = true) ∧
    (∃! comparison, comparison ∈ [Comparison.less, .equal, .greater] ∧
      (long 2).satisfies comparison (.double (.finite false 1024 0)) = true) ∧
    (list [.null]).satisfies .greaterOrEqual .null = false ∧
    (double .nan).satisfies .equal (.double .nan) = false := by
  obtain ⟨evaluated, ordered, -, -, related⟩ :=
    conditions_consistent (long 2) (.double (.finite false 1024 0))
  obtain ⟨-, -, unordered, -⟩ := conditions_consistent (list [.null]) .null
  obtain ⟨-, -, -, unequal, -⟩ := conditions_consistent (double .nan) (.double .nan)
  exact ⟨evaluated _ "rating" (.integer 2) rfl rfl .less, (ordered (by decide)).1,
    related (by decide) (by decide) (by simp) (by simp),
    unordered (by decide) .greaterOrEqual (by decide), unequal rfl .equal⟩

end Value

end DerivedQuery
