import DerivedQuery.Proofs.Store.Selection
import DerivedQuery.Proofs.Value.Order

/-!
# Filters cut sorted records

Where the values under a field are of one family, the records that lie below a bound of this family
are the first ones when the records are sorted by the field. Sorting and filtering follow one order.
-/

set_option autoImplicit false

namespace DerivedQuery

namespace Store

/-- The data under a field have store values of the family of a value, none of them NaN. -/
def HoldsFamily (records : List Record) (field : String) (bound : Value) : Prop :=
  ∀ record ∈ records, ∀ datum, Dictionary.get? record field = some datum →
    ∃ value : Value, datum.wrap = .ok value ∧ value.Orderable ∧ value.sameFamily bound = true

variable {records : List Record} {field : String} {bound : Value} {comparison : Comparison}

theorem HoldsFamily.sortable (family : HoldsFamily records field bound) {record : Record}
    (member : record ∈ records) (direction : Direction) :
    FieldOrder.TouchesSortable [⟨field, direction⟩] record := by
  refine ⟨trivial, fun _ datum found => ?_⟩
  obtain ⟨value, wrapped, orderable, -⟩ := family record member datum found
  exact ⟨value, wrapped, orderable⟩

theorem HoldsFamily.touches (family : HoldsFamily records field bound) {record : Record}
    (member : record ∈ records) :
    (Filter.property field comparison bound).TouchesWrapped record := by
  intro datum found
  obtain ⟨value, wrapped, -⟩ := family record member datum found
  exact ⟨value, wrapped⟩

/-- A record that is not sorted behind one below the bound lies below it as well. -/
theorem HoldsFamily.meets_of_not_before (family : HoldsFamily records field bound)
    (below : comparison ∈ [Comparison.less, .lessOrEqual]) (orderable : bound.Orderable)
    (scalar : bound.scalar?.isSome = true) {a b : Record} (inA : a ∈ records) (inB : b ∈ records)
    (carriesA : (Dictionary.get? a field).isSome = true)
    (notBefore : ¬ FieldOrder.Before ⟨field, .ascending⟩ b a)
    (meets : (Filter.property field comparison bound).Meets b) :
    (Filter.property field comparison bound).Meets a := by
  obtain ⟨datumA, foundA⟩ := Option.isSome_iff_exists.mp carriesA
  obtain ⟨valueA, wrappedA, orderableA, familyA⟩ := family a inA datumA foundA
  obtain ⟨datumB, valueB, foundB, wrappedB, satisfies⟩ := meets
  obtain ⟨again, wrappedAgain, orderableB, familyB⟩ := family b inB datumB foundB
  obtain rfl := Except.ok.inj (wrappedB.symm.trans wrappedAgain)
  have keyA : a.sortKey? field = some valueA.sortRank := by
    simp [Record.sortKey?, foundA, wrappedA, Except.toOption]
  have keyB : b.sortKey? field = some valueB.sortRank := by
    simp [Record.sortKey?, foundB, wrappedB, Except.toOption]
  have precedes : valueA.Precedes valueB := by
    refine Bool.eq_false_iff.mpr fun less => notBefore ?_
    exact ⟨valueB.sortRank, valueA.sortRank, keyB, keyA, less⟩
  refine ⟨datumA, valueA, foundA, wrappedA, ?_⟩
  exact Value.satisfies_of_precedes below orderable scalar orderableA orderableB familyA familyB
    precedes satisfies

theorem HoldsFamily.lexBefore_asymm (family : HoldsFamily records field bound) {a b : Record}
    (inA : a ∈ records) (inB : b ∈ records)
    (carriesA : FieldOrder.carriedBy [⟨field, .ascending⟩] a = true)
    (carriesB : FieldOrder.carriedBy [⟨field, .ascending⟩] b = true)
    (ahead : LexBefore FieldOrder.Before [⟨field, .ascending⟩] a b) :
    ¬ LexBefore FieldOrder.Before [⟨field, .ascending⟩] b a :=
  FieldOrder.lexBefore_asymm
    (FieldOrder.sortableBy_of_carriedBy (family.sortable inA .ascending) carriesA)
    (FieldOrder.sortableBy_of_carriedBy (family.sortable inB .ascending) carriesB) ahead

/-- Among the records sorted by the field, those below the bound stand first. -/
theorem HoldsFamily.passFirst (family : HoldsFamily records field bound)
    (below : comparison ∈ [Comparison.less, .lessOrEqual]) (orderable : bound.Orderable)
    (scalar : bound.scalar?.isSome = true) {test : Record → Bool}
    (test_iff : ∀ record, test record = true ↔
      (Filter.property field comparison bound).Meets record) {places : List (Fin records.length)}
    (pass : OnePass records (Chosen none [⟨field, .ascending⟩])
      (LexBefore FieldOrder.Before [⟨field, .ascending⟩]) places) :
    PassFirst test (places.map records.get) := by
  refine List.pairwise_map.mpr (pass.arranged.imp_of_mem fun {i j} memberI memberJ ahead => ?_)
  have carriesI := ((pass.mem_iff i).mp memberI).2
  have carriesJ := ((pass.mem_iff j).mp memberJ).2
  have notBefore : ¬ FieldOrder.Before ⟨field, .ascending⟩ (records.get j) (records.get i) := by
    -- The earlier record is sorted before the later one, or neither is and they tie.
    intro back
    rcases ahead with ahead | ⟨notBack, -⟩
    · exact family.lexBefore_asymm (List.get_mem records i) (List.get_mem records j) carriesI
        carriesJ ahead (.inl back)
    · exact notBack (.inl back)
  rw [test_iff, test_iff]
  refine family.meets_of_not_before below orderable scalar (List.get_mem records i)
    (List.get_mem records j) ?_ notBefore
  simpa [FieldOrder.carriedBy] using carriesI

variable {store : Store} {kind : String}

/-- The records below a bound of the family are an initial segment of the sorted ones. -/
theorem HoldsFamily.select_below (family : HoldsFamily (store.records kind) field bound)
    (orderable : bound.Orderable) (scalar : bound.scalar?.isSome = true) :
    ∃ sorted, store.select ⟨kind, none, [⟨field, .ascending⟩], none⟩ = .ok sorted ∧
      sorted.Perm ((store.records kind).filter fun record =>
        (Dictionary.get? record field).isSome) ∧
      ∀ comparison ∈ [Comparison.less, .lessOrEqual], ∃ n,
        (∀ record ∈ sorted.take n, (Filter.property field comparison bound).Meets record) ∧
        (∀ record ∈ sorted.drop n, ¬ (Filter.property field comparison bound).Meets record) ∧
        store.select
            ⟨kind, some (.property field comparison bound), [⟨field, .ascending⟩], none⟩ =
          .ok (sorted.take n) := by
  classical
  have sortable (record : Record) (member : record ∈ store.records kind) :=
    family.sortable member .ascending
  obtain ⟨places, pass, selected⟩ := @select_eq_places store kind none [⟨field, .ascending⟩] none
    (by simp) (fun record member _ => sortable record member)
  refine ⟨places.map (store.records kind).get, selected, ?_, fun comparison below => ?_⟩
  · exact pass.perm fun record => by simp [Chosen, FieldOrder.carriedBy]
  let condition := Filter.property field comparison bound
  let test (record : Record) : Bool := condition.Meets record
  have both_iff : ∀ record, Chosen (some condition) [⟨field, .ascending⟩] record ↔
      Chosen none [⟨field, .ascending⟩] record ∧ test record = true := by
    simp [Chosen, test, and_comm]
  have first := family.passFirst below orderable scalar
    (fun record => decide_eq_true_iff (p := condition.Meets record)) pass
  obtain ⟨taken, dropped⟩ := first.take_drop_countP
  refine ⟨_, fun record member => of_decide_eq_true (taken record member),
    fun record member => of_decide_eq_false (dropped record member), ?_⟩
  obtain ⟨placesBelow, passBelow, selectedBelow⟩ :=
    @select_eq_places store kind (some condition) [⟨field, .ascending⟩] none
      (fun record member other isOther => Option.some.inj isOther ▸ family.touches member)
      (fun record member _ => sortable record member)
  -- What passes the test among the sorted places is again sorted, so it is what the store selects.
  obtain rfl := (pass.filter both_iff).unique (fun a inA b inB chosenA chosenB =>
    family.lexBefore_asymm inA inB chosenA.2 chosenB.2) passBelow
  rw [← first.filter_eq_take, List.filter_map]
  exact selectedBelow

/-- Sorting and filtering follow one order. The sort keys of values other than NaN can always be
compared, and coming before is a total preorder, under which integers and doubles lie as the numbers
that they denote. Filters on two values of one family say how their sort keys lie, and those below a
bound cut off the front of the sorted records. -/
theorem keys_and_filters_agree :
    (∀ a b : Value, a.Orderable → b.Orderable →
      (∃ order, a.sortRank.compare? b.sortRank = some order ∧
        (a.sortRank.less b.sortRank = true ↔ order = .lt)) ∧
      (a.Precedes b ∨ b.Precedes a) ∧
      ∀ c : Value, c.Orderable → a.Precedes b → b.Precedes c → a.Precedes c) ∧
    (∀ (a b : Value) (p q : ExtendedRational), a.number? = some p → b.number? = some q →
      (a.sortRank.less b.sortRank = true ↔ p < q)) ∧
    (∀ a b : Value, a.Orderable → b.Orderable → a.scalar?.isSome = true →
      a.sameFamily b = true →
      (a.satisfies .less b = true ↔ a.sortRank.less b.sortRank = true) ∧
      (b.satisfies .greater a = true ↔ a.sortRank.less b.sortRank = true) ∧
      (a.satisfies .equal b = true ↔
        a.sortRank.less b.sortRank = false ∧ b.sortRank.less a.sortRank = false)) ∧
    ∀ (store : Store) (kind field : String) (bound : Value), bound.Orderable →
      bound.scalar?.isSome = true → HoldsFamily (store.records kind) field bound →
      ∃ sorted, store.select ⟨kind, none, [⟨field, .ascending⟩], none⟩ = .ok sorted ∧
        sorted.Perm ((store.records kind).filter fun record =>
          (Dictionary.get? record field).isSome) ∧
        ∀ comparison ∈ [Comparison.less, .lessOrEqual], ∃ n,
          (∀ record ∈ sorted.take n, (Filter.property field comparison bound).Meets record) ∧
          (∀ record ∈ sorted.drop n, ¬ (Filter.property field comparison bound).Meets record) ∧
          store.select
              ⟨kind, some (.property field comparison bound), [⟨field, .ascending⟩], none⟩ =
            .ok (sorted.take n) := by
  refine ⟨fun a b left right => ⟨?_, Value.precedes_total left right, ?_⟩, ?_, ?_, ?_⟩
  · obtain ⟨order, compared, compares⟩ :=
      Value.Rank.compare?_compares left.sortable right.sortable
    refine ⟨order, compared, ?_⟩
    rw [Value.Rank.less_iff_code_lt left.sortable right.sortable, compares.eq_lt]
  · exact fun c orderable first second => first.trans left right orderable second
  · exact fun a b p q numberA numberB => Value.less_iff_number_lt numberA numberB
  · exact fun a b left right scalar family => Value.satisfies_iff_less family left right scalar
  · exact fun store kind field bound orderable scalar family => family.select_below orderable scalar

/-- The integer after 2⁵³, which no double denotes, lies above the double 2⁵³ for sorting and for
filtering alike; and the books rated below two come first among the rated ones. -/
theorem keys_and_filters_agree_large :
    ((Value.double (.finite false 1076 0)).satisfies .less (.long 9007199254740993) = true ↔
      (Value.double (.finite false 1076 0)).sortRank.less
        (Value.long 9007199254740993).sortRank = true) ∧
    HoldsFamily (shelf.records "Book") "rating" (.long 2) ∧
    ∃ sorted, shelf.select ⟨"Book", none, [⟨"rating", .ascending⟩], none⟩ = .ok sorted ∧ ∃ n,
      (∀ record ∈ sorted.take n, (Filter.property "rating" .less (.long 2)).Meets record) ∧
      (∀ record ∈ sorted.drop n, ¬ (Filter.property "rating" .less (.long 2)).Meets record) ∧
      shelf.select ⟨"Book", some (.property "rating" .less (.long 2)), [⟨"rating", .ascending⟩],
        none⟩ = .ok (sorted.take n) := by
  obtain ⟨-, -, filters, segments⟩ := keys_and_filters_agree
  have family : HoldsFamily (shelf.records "Book") "rating" (.long 2) := by
    simp [HoldsFamily, shelf, records, Dictionary.get?, Datum.wrap, Value.Orderable,
      Value.sameFamily, Value.type]
  refine ⟨(filters _ _ (by simp [Value.Orderable]) (by simp [Value.Orderable]) (by decide)
    (by decide)).1, family, ?_⟩
  obtain ⟨sorted, selected, -, below⟩ :=
    segments shelf "Book" "rating" (.long 2) (by simp [Value.Orderable]) (by decide) family
  exact ⟨sorted, selected, below .less (by simp)⟩

end Store

end DerivedQuery
