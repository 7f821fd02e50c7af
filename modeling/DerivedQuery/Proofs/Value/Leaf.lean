import DerivedQuery.Proofs.Filter.Meets

/-!
# Matching lists

A condition holds of a stored list when it holds of one of its leaves, the values that are reached
through nested lists only. The nesting of the leaves, their order and their number of occurrences do
not count. A list has no leaves if it holds nothing but such lists, and a list as target is compared
with no leaf at all.
-/

set_option autoImplicit false

namespace DerivedQuery

namespace Value

/-- The value is no list and is reached from a stored value through nested lists only. -/
inductive LeafOf (leaf : Value) : Value → Prop
  | self (single : leaf.type ≠ .list) : LeafOf leaf leaf
  | element {elements : List Value} {element : Value} (member : element ∈ elements)
      (inside : LeafOf leaf element) : LeafOf leaf (.list elements)

/-- Two stored values that differ in the nesting, the order or the repetition of elements of lists
at any depth. -/
inductive Rearranged : Value → Value → Prop
  | refl (value : Value) : Rearranged value value
  | symm {value other : Value} (back : Rearranged value other) : Rearranged other value
  | trans {value other further : Value} (first : Rearranged value other)
      (second : Rearranged other further) : Rearranged value further
  | flatten (front inner back : List Value) :
      Rearranged (.list (front ++ .list inner :: back)) (.list (front ++ inner ++ back))
  | reorder {elements others : List Value} (perm : elements.Perm others) :
      Rearranged (.list elements) (.list others)
  | duplicate {elements : List Value} {element : Value} (member : element ∈ elements) :
      Rearranged (.list elements) (.list (element :: elements))
  | inside (front back : List Value) {element other : Value} (here : Rearranged element other) :
      Rearranged (.list (front ++ element :: back)) (.list (front ++ other :: back))

/-- A list that holds nothing but such lists; the empty list is one. -/
inductive Hollow : Value → Prop
  | list {elements : List Value} (inside : ∀ element ∈ elements, Hollow element) :
      Hollow (.list elements)

variable {leaf stored other target : Value} {elements : List Value} {comparison : Comparison}

theorem leafOf_list_iff : leaf.LeafOf (.list elements) ↔ ∃ element ∈ elements, leaf.LeafOf element := by
  constructor
  · intro inside
    cases inside with
    | self single => exact absurd rfl single
    | element member inside => exact ⟨_, member, inside⟩
  · rintro ⟨element, member, inside⟩
    exact .element member inside

theorem LeafOf.type_ne (inside : leaf.LeafOf stored) : leaf.type ≠ .list := by
  induction inside with
  | self single => exact single
  | element _ _ ih => exact ih

theorem satisfies_single (single : stored.type ≠ .list) :
    stored.satisfies comparison target = stored.scalarMatches comparison target := by
  cases stored with
  | list elements => exact absurd rfl single
  | _ => rfl

theorem anySatisfies_iff :
    anySatisfies elements comparison target = true ↔
      ∃ element ∈ elements, element.satisfies comparison target = true := by
  induction elements with
  | nil => simp [anySatisfies]
  | cons element rest ih => simp [anySatisfies, ih]

theorem satisfies_list_iff :
    (list elements).satisfies comparison target = true ↔
      ∃ element ∈ elements, element.satisfies comparison target = true := by
  rw [satisfies, anySatisfies_iff]

theorem LeafOf.satisfies_of_scalarMatches (inside : leaf.LeafOf stored)
    (holds : leaf.scalarMatches comparison target = true) :
    stored.satisfies comparison target = true := by
  induction inside with
  | self single => rwa [satisfies_single single]
  | element member _ ih => exact satisfies_list_iff.mpr ⟨_, member, ih⟩

mutual

theorem exists_leaf_of_satisfies : (stored : Value) →
    stored.satisfies comparison target = true →
      ∃ leaf : Value, leaf.LeafOf stored ∧ leaf.scalarMatches comparison target = true
  | .list elements, holds => by
      rw [satisfies] at holds
      obtain ⟨element, member, leaf, inside, matched⟩ :=
        exists_leaf_of_anySatisfies elements holds
      exact ⟨leaf, .element member inside, matched⟩
  | .null, holds | .boolean _, holds | .long _, holds | .double _, holds | .string _, holds
  | .blob _, holds | .timestamp _, holds | .entity _, holds => ⟨_, .self (by simp [type]), holds⟩

theorem exists_leaf_of_anySatisfies : (elements : List Value) →
    anySatisfies elements comparison target = true →
      ∃ element ∈ elements, ∃ leaf : Value,
        leaf.LeafOf element ∧ leaf.scalarMatches comparison target = true
  | [], holds => nomatch holds
  | element :: rest, holds => by
      rw [anySatisfies, Bool.or_eq_true] at holds
      rcases holds with here | later
      · exact ⟨element, by simp, exists_leaf_of_satisfies element here⟩
      · obtain ⟨found, member, inside⟩ := exists_leaf_of_anySatisfies rest later
        exact ⟨found, by simp [member], inside⟩

end

theorem satisfies_iff_leaf :
    stored.satisfies comparison target = true ↔
      ∃ leaf : Value, leaf.LeafOf stored ∧ leaf.scalarMatches comparison target = true :=
  ⟨exists_leaf_of_satisfies stored, fun ⟨_, inside, holds⟩ => inside.satisfies_of_scalarMatches holds⟩

theorem satisfies_eq_false
    (misses : ∀ leaf : Value, leaf.LeafOf stored → leaf.scalarMatches comparison target = false) :
    stored.satisfies comparison target = false := by
  rw [← Bool.not_eq_true, satisfies_iff_leaf]
  rintro ⟨leaf, inside, holds⟩
  exact Bool.false_ne_true ((misses leaf inside).symm.trans holds)

theorem Rearranged.leafOf_iff (rearranged : stored.Rearranged other) :
    leaf.LeafOf stored ↔ leaf.LeafOf other := by
  induction rearranged with
  | refl value => exact Iff.rfl
  | symm _ ih => exact ih.symm
  | trans _ _ first second => exact first.trans second
  | flatten front inner back =>
      simp only [leafOf_list_iff, List.mem_append, List.mem_cons, or_and_right, exists_or,
        exists_eq_left, or_assoc]
  | reorder perm => simp only [leafOf_list_iff, perm.mem_iff]
  | @duplicate elements element member =>
      simp only [leafOf_list_iff, List.mem_cons, or_and_right, exists_or, exists_eq_left]
      exact ⟨.inr, fun either => either.elim (fun inside => ⟨element, member, inside⟩) id⟩
  | inside front back _ ih =>
      simp only [leafOf_list_iff, List.mem_append, List.mem_cons, or_and_right, exists_or,
        exists_eq_left, ih]

theorem Rearranged.satisfies_eq (rearranged : stored.Rearranged other) :
    stored.satisfies comparison target = other.satisfies comparison target := by
  rw [Bool.eq_iff_iff, satisfies_iff_leaf, satisfies_iff_leaf]
  simp only [rearranged.leafOf_iff]

theorem Hollow.not_leafOf (hollow : stored.Hollow) : ¬ leaf.LeafOf stored := by
  induction hollow with
  | list _ ih =>
      rw [leafOf_list_iff]
      rintro ⟨element, member, inside⟩
      exact ih element member inside

theorem scalarMatches_null_iff : leaf.scalarMatches .equal .null = true ↔ leaf = .null := by
  cases leaf <;> simp [scalarMatches, sameFamily, type, plainEqual]

theorem scalarMatches_list (single : leaf.type ≠ .list) :
    leaf.scalarMatches comparison (.list elements) = false := by
  cases leaf <;> first | exact absurd rfl single | (cases comparison <;> rfl)

theorem satisfies_null_iff : stored.satisfies .equal .null = true ↔ null.LeafOf stored := by
  simp only [satisfies_iff_leaf, scalarMatches_null_iff, exists_eq_right]

theorem satisfies_list_target : stored.satisfies comparison (.list elements) = false :=
  satisfies_eq_false fun _ inside => scalarMatches_list inside.type_ne

theorem matches?_list_target {record : Record} {field : String} :
    (Filter.property field comparison (.list elements)).matches? record ≠ .ok true := by
  rw [Filter.matches?, Filter.propertyMatches]
  cases Dictionary.get? record field with
  | none => simp
  | some datum =>
      cases wrapped : datum.wrap with
      | error failure => simp [wrapped, Except.map]
      | ok stored => simp [wrapped, Except.map, satisfies_list_target]

/-- Matching goes by leaves. A condition holds of a stored value exactly when it holds of a value
that is no list and is reached through nested lists only, so flattening, reordering and repeating
elements at any depth changes nothing, and lists of nothing but lists match nothing. A stored list is
found by asking for null exactly when null is one of its leaves, and no record is found by comparing
with a list. -/
theorem satisfies_by_leaves :
    (∀ (stored : Value) (comparison : Comparison) (target : Value),
      stored.satisfies comparison target = true ↔
        ∃ leaf : Value, leaf.LeafOf stored ∧ leaf.scalarMatches comparison target = true) ∧
    (∀ stored other : Value, stored.Rearranged other → ∀ comparison target,
      stored.satisfies comparison target = other.satisfies comparison target) ∧
    (∀ stored : Value, stored.Hollow → ∀ comparison target,
      stored.satisfies comparison target = false) ∧
    (∀ record field datum elements, Dictionary.get? record field = some datum →
      datum.wrap = .ok (.list elements) →
      ∃ met, (Filter.isNull field).matches? record = .ok met ∧
        (met = true ↔ null.LeafOf (.list elements))) ∧
    ∀ field comparison elements,
      (∀ stored : Value, stored.satisfies comparison (.list elements) = false) ∧
      ∀ record, (Filter.property field comparison (.list elements)).matches? record ≠ .ok true := by
  refine ⟨fun _ _ _ => satisfies_iff_leaf, fun _ _ rearranged _ _ => rearranged.satisfies_eq, ?_, ?_,
    fun _ _ _ => ⟨fun _ => satisfies_list_target, fun _ => matches?_list_target⟩⟩
  · exact fun stored hollow comparison target =>
      satisfies_eq_false fun leaf inside => absurd inside hollow.not_leafOf
  · intro record field datum elements found wrapped
    exact ⟨_, Filter.matches?_property found wrapped .equal .null, satisfies_null_iff⟩

/-- Nested lists with a null inside: what is asked of them may as well be asked of a flat list in
another order, and the null is found. Two empty lists in a list match nothing. -/
theorem satisfies_by_leaves_nested :
    (∀ comparison target,
      (list [.list [], .list [.long 1, .list [.null]]]).satisfies comparison target =
        (list [.null, .long 1, .long 1]).satisfies comparison target) ∧
    (∀ comparison target, (list [.list [], .list []]).satisfies comparison target = false) ∧
    (Filter.isNull "tags").matches? [("tags", .list [.integer 1, .list [.null]])] = .ok true := by
  obtain ⟨-, rearranging, hollow, asking, -⟩ := satisfies_by_leaves
  refine ⟨rearranging _ _ ?_, hollow _ (.list ?_), ?_⟩
  · have flatFront := Rearranged.flatten [] [] [list [.long 1, .list [.null]]]
    have flat := Rearranged.flatten [] [.long 1, .list [.null]] []
    have flatBack := Rearranged.flatten [.long 1] [.null] []
    have repeated : Rearranged (.list [.long 1, .null]) (.list [.long 1, .long 1, .null]) :=
      .duplicate (by simp)
    have turned : Rearranged (.list [.long 1, .long 1, .null]) (.list [.null, .long 1, .long 1]) :=
      .reorder (.trans (.cons _ (.swap _ _ _)) (.swap _ _ _))
    exact flatFront.trans (flat.trans (flatBack.trans (repeated.trans turned)))
  · intro element member
    obtain rfl : element = list [] := by simpa using member
    exact .list (by simp)
  · obtain ⟨met, tried, found⟩ := asking [("tags", .list [.integer 1, .list [.null]])] "tags"
      (.list [.integer 1, .list [.null]]) [.long 1, .list [.null]] rfl rfl
    have inner : null.LeafOf (.list [.null]) := .element List.mem_cons_self (.self (by decide))
    have outer : null.LeafOf (.list [.long 1, .list [.null]]) := .element (by simp) inner
    rw [tried, found.mpr outer]

end Value

end DerivedQuery
