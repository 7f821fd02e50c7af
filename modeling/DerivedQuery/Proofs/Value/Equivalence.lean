import DerivedQuery.Proofs.Store.Selection
import DerivedQuery.Proofs.Value.Consistency
import DerivedQuery.Proofs.Value.PlainContent

/-!
# Equality in filters

Two targets of one family are equal when they have one content. On values that wrapping gives, lists
and NaNs apart, this is an equivalence which equal values satisfy, and a filter cannot tell equal
targets apart, whatever is stored.
-/

set_option autoImplicit false

namespace DerivedQuery

namespace Value

/-- A value that wrapping gives, that is no list and has no NaN inside. -/
structure Equatable (value : Value) : Prop where
  wrapped : value.Wrapped
  single : value.type ≠ .list
  nanFree : value.NanFree

variable {a b c stored : Value}

theorem satisfies_equal_iff (single : a.type ≠ .list) :
    a.satisfies .equal b = true ↔ a.rank = b.rank ∧ a.plainEqual b = true := by
  rw [satisfies_single single, scalarMatches, Bool.and_eq_true, sameFamily_iff_rank_eq]

theorem Equatable.regular (equatable : a.Equatable) : a.Regular := fun part inside =>
  ⟨equatable.wrapped.namesApart part inside, equatable.nanFree part inside⟩

theorem Equatable.satisfies_iff (equatable : a.Equatable) (other : b.Equatable) :
    a.satisfies .equal b = true ↔ a.rank = b.rank ∧ a.plainContent = b.plainContent := by
  rw [satisfies_equal_iff equatable.single,
    plainEqual_iff_plainContent equatable.regular other.regular]

theorem Equatable.satisfies_symm (equatable : a.Equatable) (other : b.Equatable)
    (equal : a.satisfies .equal b = true) : b.satisfies .equal a = true := by
  obtain ⟨ranks, same⟩ := (equatable.satisfies_iff other).mp equal
  exact (other.satisfies_iff equatable).mpr ⟨ranks.symm, same.symm⟩

theorem equivalence_satisfies :
    Equivalence fun a b : {value : Value // value.Equatable} =>
      a.val.satisfies .equal b.val = true where
  refl a := (a.property.satisfies_iff a.property).mpr ⟨rfl, rfl⟩
  symm {a b} equal := a.property.satisfies_symm b.property equal
  trans {a b c} first second := by
    obtain ⟨ranks, same⟩ := (a.property.satisfies_iff b.property).mp first
    obtain ⟨ranksOther, sameOther⟩ := (b.property.satisfies_iff c.property).mp second
    exact (a.property.satisfies_iff c.property).mpr
      ⟨ranks.trans ranksOther, same.trans sameOther⟩

theorem satisfies_of_same (single : a.type ≠ .list) (same : a.same b = true) :
    a.satisfies .equal b = true :=
  (satisfies_equal_iff single).mpr ⟨rank_eq_of_same same, plainEqual_of_same same⟩

/-- A stored value that equals one of two equal targets equals the other, also where it has NaNs
inside or was not made by wrapping. -/
theorem Equatable.satisfies_of_satisfies (equatable : a.Equatable) (other : b.Equatable)
    (equal : a.satisfies .equal b = true) (found : stored.satisfies .equal a = true) :
    stored.satisfies .equal b = true := by
  obtain ⟨ranks, same⟩ := (equatable.satisfies_iff other).mp equal
  -- A stored list is found by one of its leaves, which is then compared with both targets.
  obtain ⟨leaf, inside, holds⟩ := satisfies_iff_leaf.mp found
  refine satisfies_iff_leaf.mpr ⟨leaf, inside, ?_⟩
  rw [← satisfies_single inside.type_ne, satisfies_equal_iff inside.type_ne] at holds ⊢
  obtain ⟨leafRanks, leafEqual⟩ := holds
  exact ⟨leafRanks.trans ranks,
    plainEqual_of_plainContent equatable.regular other.regular same leafEqual⟩

theorem Equatable.satisfies_eq (equatable : a.Equatable) (other : b.Equatable)
    (equal : a.satisfies .equal b = true) :
    stored.satisfies .equal a = stored.satisfies .equal b := by
  have back := equatable.satisfies_symm other equal
  rw [Bool.eq_iff_iff]
  exact ⟨equatable.satisfies_of_satisfies other equal, other.satisfies_of_satisfies equatable back⟩

end Value

/-- Targets that no stored value tells apart select the same records, or fail alike. -/
theorem Store.select_target_congr {field : String} {comparison : Comparison} {target other : Value}
    (alike : ∀ stored : Value,
      stored.satisfies comparison target = stored.satisfies comparison other)
    (store : Store) (kind : String) (orders : List FieldOrder) (limit : Option Int) :
    store.select ⟨kind, some (.property field comparison target), orders, limit⟩ =
      store.select ⟨kind, some (.property field comparison other), orders, limit⟩ := by
  have tried (record : Record) : (Filter.property field comparison target).matches? record =
      (Filter.property field comparison other).matches? record := by
    simp only [Filter.matches?, Filter.propertyMatches, alike]
  have met (records : List Record) : filterRecords (.property field comparison target) records =
      filterRecords (.property field comparison other) records := by
    induction records with
    | nil => rfl
    | cons record rest ih => rw [filterRecords, filterRecords, tried, ih]
  rw [select_eq, select_eq, Option.elim_some, Option.elim_some, met]

namespace Value

/-- Equality with targets that wrapping gives, lists and NaNs apart, is an equivalence: two are equal
when they are of one family and have one content. Values of equal type and content are equal, and
equal targets select the same records of any store. -/
theorem equality_equivalence :
    (Equivalence fun a b : {value : Value // value.Equatable} =>
      a.val.satisfies .equal b.val = true) ∧
    ∀ a b : Value, a.Equatable → b.Equatable →
      (a.satisfies .equal b = true ↔ a.sameFamily b = true ∧ a.plainContent = b.plainContent) ∧
      (a.same b = true → a.satisfies .equal b = true) ∧
      (a.satisfies .equal b = true →
        ∀ (store : Store) (kind field : String) (orders : List FieldOrder) (limit : Option Int),
          store.select ⟨kind, some (.property field .equal a), orders, limit⟩ =
            store.select ⟨kind, some (.property field .equal b), orders, limit⟩) := by
  refine ⟨equivalence_satisfies, fun a b equatable other =>
    ⟨?_, satisfies_of_same equatable.single, fun equal store kind field orders limit => ?_⟩⟩
  · rw [sameFamily_iff_rank_eq]
    exact equatable.satisfies_iff other
  · exact Store.select_target_congr (fun _ => equatable.satisfies_eq other equal) store kind orders
      limit

/-- A whole number, a double and a truth value inside entities with the properties in either order:
filters do not tell them apart. -/
theorem equality_equivalence_nested :
    let counted : Value := .entity [("a", .long 1), ("b", .list [.boolean true])]
    let measured : Value := .entity [("b", .list [.long 1]), ("a", .double (.finite false 1023 0))]
    let turned : Value := .entity [("b", .list [.boolean true]), ("a", .long 1)]
    measured.satisfies .equal turned = true ∧
    ∀ (store : Store) (kind field : String),
      store.select ⟨kind, some (.property field .equal counted), [], none⟩ =
        store.select ⟨kind, some (.property field .equal measured), [], none⟩ := by
  intro counted measured turned
  have equatable : counted.Equatable ∧ measured.Equatable ∧ turned.Equatable := by
    refine ⟨⟨wrapped_iff.mpr ?_, nofun, ?_⟩, ⟨wrapped_iff.mpr ?_, nofun, ?_⟩,
        ⟨wrapped_iff.mpr ?_, nofun, ?_⟩⟩ <;>
      simp [counted, measured, turned, NanFree, everyPart_entity_iff, everyPart_list_iff,
        everyPart_single_iff, NamesApart, Orderable, type]
  obtain ⟨ofCounted, ofMeasured, ofTurned⟩ := equatable
  have one : (Double.finite false 1023 0).number? = some 1 := by simp [Double.number?]
  have contents : counted.plainContent = measured.plainContent := by
    refine plainContent_entity_iff.mpr fun key => ?_
    by_cases first : key = "a"
    · subst first
      simp [Dictionary.get?, plainContent, one]
    · by_cases second : key = "b"
      · subst second
        simp [Dictionary.get?, plainContent, plainContents]
      · simp [Dictionary.get?, Ne.symm first, Ne.symm second]
  obtain ⟨equivalence, targets⟩ := equality_equivalence
  have found : counted.satisfies .equal measured = true :=
    (targets _ _ ofCounted ofMeasured).1.mpr ⟨rfl, contents⟩
  have foundTurned : counted.satisfies .equal turned = true :=
    (targets _ _ ofCounted ofTurned).2.1 (by decide)
  refine ⟨?_, fun store kind field => ?_⟩
  · exact @equivalence.trans ⟨_, ofMeasured⟩ ⟨_, ofCounted⟩ ⟨_, ofTurned⟩
      (@equivalence.symm ⟨_, ofCounted⟩ ⟨_, ofMeasured⟩ found) foundTurned
  · exact (targets _ _ ofCounted ofMeasured).2.2 found store kind field [] none

end Value

end DerivedQuery
