import DerivedQuery.Method.Execution
import DerivedQuery.Model.Catalog
import DerivedQuery.Proofs.Logged
import DerivedQuery.Proofs.Sorting.OnePass
import DerivedQuery.Proofs.Store.RecordOrder

/-!
# Selection in one pass

A query selects the records that meet its filter and have all fields to sort by, arranged by the
first field in which they differ. The passes of the store, which filter, drop and sort field by
field, find them.
-/

set_option autoImplicit false

namespace DerivedQuery

namespace Store

/-- The record is one that a query chooses: it meets the filter, where there is one, and has all
fields to sort by. -/
def Chosen (filter : Option Filter) (orders : List FieldOrder) (record : Record) : Prop :=
  (∀ condition ∈ filter, condition.Meets record) ∧ FieldOrder.carriedBy orders record = true

/-- The passes of a query: filtering, sorting and cutting. -/
theorem select_eq (store : Store) (kind : String) (filter : Option Filter)
    (orders : List FieldOrder) (limit : Option Int) :
    store.select ⟨kind, filter, orders, limit⟩ =
      (filter.elim (.ok (store.records kind)) fun condition =>
        filterRecords condition (store.records kind)) >>= fun met =>
          (sortByAll orders met).map (cut limit) := by
  cases filter <;> rfl

open Classical in
/-- The places of the records that meet a filter, in order, and what is found there. -/
theorem filterRecords_places {filter : Option Filter} {stored : List Record}
    (touched : ∀ record ∈ stored, ∀ condition ∈ filter, condition.TouchesWrapped record) :
    (filter.elim (.ok stored) fun condition => filterRecords condition stored) = Except.ok
        (((List.finRange stored.length).filter fun i =>
          ∀ condition ∈ filter, condition.Meets (stored.get i)).map stored.get) := by
  have whole := map_get_finRange stored
  cases filter with
  | none => simp [whole]
  | some condition =>
      have met := filterRecords_eq fun record member => touched record member condition rfl
      conv_rhs at met => rw [← whole]
      simp only [Option.elim_some, met, List.filter_map, Option.mem_def, Option.some.injEq,
        forall_eq']
      rfl

theorem sortByAll_filter_carriedBy {orders : List FieldOrder} {records : List Record}
    (sortable : ∀ record ∈ records, FieldOrder.TouchesSortable orders record) :
    sortByAll orders records =
      sortByAll orders (records.filter fun record => FieldOrder.carriedBy orders record) := by
  have rising : (List.finRange records.length).Pairwise (· < ·) := List.pairwise_lt_finRange _
  have atPlaces : ∀ i ∈ List.finRange records.length,
      FieldOrder.TouchesSortable orders (records.get i) := fun i _ =>
    sortable _ (List.get_mem records i)
  obtain ⟨sorted, eq, perm, lex⟩ := sortByAll_map atPlaces rising
  have atKept : ∀ i ∈ (List.finRange records.length).filter fun i =>
      FieldOrder.carriedBy orders (records.get i), FieldOrder.TouchesSortable orders (records.get i) :=
    fun i _ => atPlaces i (List.mem_finRange i)
  obtain ⟨again, eqAgain, permAgain, lexAgain⟩ :=
    sortByAll_map atKept (rising.sublist List.filter_sublist)
  have same : again = sorted := by
    refine arranged_unique (fun i memberI j memberJ => ?_) ?_ lex lexAgain
    · obtain ⟨-, carriesI⟩ := List.mem_filter.mp (perm.mem_iff.mp memberI)
      obtain ⟨-, carriesJ⟩ := List.mem_filter.mp (perm.mem_iff.mp memberJ)
      exact FieldOrder.lexBefore_asymm
        (FieldOrder.sortableBy_of_carriedBy (atPlaces i (List.mem_finRange i)) carriesI)
        (FieldOrder.sortableBy_of_carriedBy (atPlaces j (List.mem_finRange j)) carriesJ)
    · refine permAgain.trans (.trans (.of_eq ?_) perm.symm)
      simp [List.filter_filter]
  have whole := map_get_finRange records
  have kept : records.filter (fun record => FieldOrder.carriedBy orders record) =
      ((List.finRange records.length).filter fun i =>
        FieldOrder.carriedBy orders (records.get i)).map records.get := by
    conv_lhs => rw [← whole]
    rw [List.filter_map]
    rfl
  rw [kept, eqAgain, same, ← eq, whole]

section

variable {store : Store} {kind : String} {filter : Option Filter} {orders : List FieldOrder}

/-- The records that are found are loaded, once the type turns out to be a model. -/
theorem answer_result (store : Store) (query : StructuredQuery) (entity : TypeReference) :
    (store.answer query entity).result = (store.select query).bind fun records =>
      entity.toModel.bind fun model => loadAll model records := by
  simp [answer, Except.bind]

/-- Where the filter and the fields to sort by touch nothing but data with store values, and no NaN
is sorted by, the records are selected in one pass. -/
theorem select_eq_places (limit : Option Nat)
    (touched : ∀ record ∈ store.records kind, ∀ condition ∈ filter,
      condition.TouchesWrapped record)
    (sortable : ∀ record ∈ store.records kind, (∀ condition ∈ filter, condition.Meets record) →
      FieldOrder.TouchesSortable orders record) :
    ∃ places,
      OnePass (store.records kind) (Chosen filter orders) (LexBefore FieldOrder.Before orders) places ∧
      store.select ⟨kind, filter, orders, limit.map Int.ofNat⟩ =
        .ok (firstOf limit (places.map (store.records kind).get)) := by
  classical
  have met := filterRecords_places touched
  rw [select_eq]
  generalize store.records kind = stored at touched sortable met ⊢
  have atMet : ∀ i ∈ (List.finRange stored.length).filter fun i =>
      ∀ condition ∈ filter, condition.Meets (stored.get i),
      FieldOrder.TouchesSortable orders (stored.get i) := fun i member =>
    sortable _ (List.get_mem stored i) (by simpa using (List.mem_filter.mp member).2)
  obtain ⟨sorted, eq, perm, lex⟩ :=
    sortByAll_map atMet ((List.pairwise_lt_finRange _).sublist List.filter_sublist)
  refine ⟨sorted, ⟨?_, fun i => ?_, lex⟩, ?_⟩
  · exact perm.symm.nodup (((List.nodup_finRange _).filter _).filter _)
  · simp [perm.mem_iff, Chosen, and_comm]
  · rw [met]
    change (sortByAll orders _).map _ = _
    rw [eq]
    cases limit <;> simp [Except.map, cut, firstOf]

/-- What a store answers is said in one pass. The chosen records are those that meet the filter and
have all fields to sort by, and their places, arranged by the lexicographic comparison of their keys
with ties in the order of saving, are determined. Of these the first up to the limit are taken and
loaded. Dropping the records that lack a field between the passes is dropping them at once. -/
theorem answer_onePass {query : StructuredQuery} (entity : TypeReference)
    (nonneg : ∀ n ∈ query.limit, 0 ≤ n)
    (touched : ∀ record ∈ store.records query.kind, ∀ condition ∈ query.filter,
      condition.TouchesWrapped record)
    (sortable : ∀ record ∈ store.records query.kind,
      (∀ condition ∈ query.filter, condition.Meets record) →
        FieldOrder.TouchesSortable query.orders record) :
    ∃ places : List (Fin (store.records query.kind).length),
      OnePass (store.records query.kind) (Chosen query.filter query.orders)
        (LexBefore FieldOrder.Before query.orders) places ∧
      (∀ others, OnePass (store.records query.kind) (Chosen query.filter query.orders)
        (LexBefore FieldOrder.Before query.orders) others → others = places) ∧
      store.select query = .ok
        (firstOf (query.limit.map Int.toNat) (places.map (store.records query.kind).get)) ∧
      (store.answer query entity).result = (entity.toModel.bind fun model =>
        loadAll model
          (firstOf (query.limit.map Int.toNat) (places.map (store.records query.kind).get))) ∧
      ∀ met : List Record,
        (∀ record ∈ met, record ∈ store.records query.kind ∧
          ∀ condition ∈ query.filter, condition.Meets record) →
        sortByAll query.orders met =
          sortByAll query.orders (met.filter fun record =>
            FieldOrder.carriedBy query.orders record) := by
  obtain ⟨kind, filter, orders, limit⟩ := query
  have natural : limit = (limit.map Int.toNat).map Int.ofNat := by
    cases limit with
    | none => rfl
    | some n => simp [Int.toNat_of_nonneg (nonneg n rfl)]
  obtain ⟨places, pass, selected⟩ := select_eq_places (limit.map Int.toNat) touched sortable
  rw [← natural] at selected
  refine ⟨places, pass, fun others again => ?_, selected, ?_, fun met inside => ?_⟩
  · refine pass.unique (fun a inA b inB chosenA chosenB => ?_) again
    exact FieldOrder.lexBefore_asymm
      (FieldOrder.sortableBy_of_carriedBy (sortable a inA chosenA.1) chosenA.2)
      (FieldOrder.sortableBy_of_carriedBy (sortable b inB chosenB.1) chosenB.2)
  · rw [answer_result, selected]
    rfl
  · exact sortByAll_filter_carriedBy fun record member =>
      sortable record (inside record member).1 (inside record member).2

end

def shelf : Store :=
  ⟨[("Book", [[("title", .text "b"), ("rating", .integer 2)], [("title", .text "a")],
    [("title", .text "c"), ("rating", .integer 2)], [("rating", .integer 1), ("title", .text "a")]])]⟩

def bestRated : StructuredQuery :=
  ⟨"Book", some (.composite "AND" [.property "title" .greater (.string "A")]),
    [⟨"rating", .descending⟩, ⟨"title", .ascending⟩], some 2⟩

theorem answer_onePass_shelf :
    ∃ places : List (Fin (shelf.records "Book").length),
      OnePass (shelf.records "Book") (Chosen bestRated.filter bestRated.orders)
        (LexBefore FieldOrder.Before bestRated.orders) places ∧
      shelf.select bestRated =
        .ok (firstOf (some 2) (places.map (shelf.records "Book").get)) := by
  have touched : ∀ record ∈ shelf.records "Book", ∀ condition ∈ bestRated.filter,
      condition.TouchesWrapped record := by
    simp [shelf, bestRated, records, Dictionary.get?, Filter.TouchesWrapped,
      Filter.TouchesAllWrapped, Datum.Wraps, Datum.wrap]
  have sortable : ∀ record ∈ shelf.records "Book",
      (∀ condition ∈ bestRated.filter, condition.Meets record) →
        FieldOrder.TouchesSortable bestRated.orders record := by
    simp [shelf, bestRated, records, Dictionary.get?, FieldOrder.TouchesSortable,
      FieldOrder.carriedBy, Datum.wrap, Value.Orderable]
  obtain ⟨places, pass, -, selected, -⟩ :=
    @answer_onePass shelf bestRated (.model (.strict 1 "Book" none [] [] []))
      (by simp [bestRated]) touched sortable
  exact ⟨places, pass, selected⟩

end Store

end DerivedQuery
