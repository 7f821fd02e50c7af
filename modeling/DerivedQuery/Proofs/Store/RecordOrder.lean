import DerivedQuery.Proofs.Filter.Meets
import DerivedQuery.Proofs.Sorting.OnePass
import DerivedQuery.Proofs.Sorting.StableSort
import DerivedQuery.Proofs.Value.SortKey

/-!
# Sorting records by several fields

Records are compared field by field, the primary one first, each in its own direction. Sorting
stably by one field after the other, the last one first, and dropping the records that lack the
field before every pass, arranges the records that have all fields by this comparison; those that
are alike in all fields stay in their order.
-/

set_option autoImplicit false

namespace DerivedQuery

/-- What a record is sorted by under a field: the rank of the type and the value. -/
def Record.sortKey? (record : Record) (field : String) : Option Value.Rank :=
  (Dictionary.get? record field).bind fun datum => datum.wrap.toOption.map Value.sortRank

namespace Direction

/-- The first key comes before the second in a direction. -/
def Before (direction : Direction) (a b : Value.Rank) : Prop :=
  match direction with
  | .ascending => a.less b = true
  | .descending => b.less a = true

end Direction

namespace FieldOrder

/-- The first record comes before the second by the field alone. -/
def Before (order : FieldOrder) (a b : Record) : Prop :=
  ∃ x y, a.sortKey? order.field = some x ∧ b.sortKey? order.field = some y ∧
    order.direction.Before x y

/-- The record has all fields to sort by. -/
def carriedBy (orders : List FieldOrder) (record : Record) : Bool :=
  orders.all fun order => (Dictionary.get? record order.field).isSome

/-- All data of the record that are touched when it is sorted have store values other than NaN. A
record that lacks a field is dropped before the fields in front of it are looked at. -/
def TouchesSortable : List FieldOrder → Record → Prop
  | [], _ => True
  | order :: orders, record =>
      TouchesSortable orders record ∧ (carriedBy orders record = true →
        ∀ datum, Dictionary.get? record order.field = some datum →
          ∃ value : Value, datum.wrap = .ok value ∧ value.Orderable)

theorem Before.asymm {order : FieldOrder} {a b : Record}
    (left : ∀ key ∈ a.sortKey? order.field, key.Sortable)
    (right : ∀ key ∈ b.sortKey? order.field, key.Sortable) (before : order.Before a b) :
    ¬ order.Before b a := by
  rintro ⟨y, x, keyB, keyA, back⟩
  obtain ⟨x', y', keyA', keyB', ahead⟩ := before
  obtain rfl := Option.some.inj (keyA.symm.trans keyA')
  obtain rfl := Option.some.inj (keyB.symm.trans keyB')
  have sortableX := left x keyA
  have sortableY := right y keyB
  cases order with
  | mk field direction =>
      cases direction with
      | ascending =>
          exact lt_asymm ((Value.Rank.less_iff_code_lt sortableX sortableY).mp ahead)
            ((Value.Rank.less_iff_code_lt sortableY sortableX).mp back)
      | descending =>
          exact lt_asymm ((Value.Rank.less_iff_code_lt sortableY sortableX).mp ahead)
            ((Value.Rank.less_iff_code_lt sortableX sortableY).mp back)

/-- All keys that the record is sorted by belong to values other than NaN. -/
def SortableBy (orders : List FieldOrder) (record : Record) : Prop :=
  ∀ order ∈ orders, ∀ key ∈ record.sortKey? order.field, key.Sortable

theorem lexBefore_asymm {orders : List FieldOrder} {a b : Record} (left : SortableBy orders a)
    (right : SortableBy orders b) (precedes : LexBefore Before orders a b) :
    ¬ LexBefore Before orders b a :=
  LexBefore.asymm (fun order member => Before.asymm (left order member) (right order member))
    precedes

/-- Where no pass comes across anything else, a record with all fields has sortable keys. -/
theorem sortableBy_of_carriedBy {orders : List FieldOrder} {record : Record}
    (touched : TouchesSortable orders record) (carries : carriedBy orders record = true) :
    SortableBy orders record := by
  induction orders with
  | nil => exact fun order member => absurd member (by simp)
  | cons order orders ih =>
      obtain ⟨touchedRest, touchedHere⟩ := touched
      simp only [carriedBy, List.all_cons, Bool.and_eq_true] at carries
      have carriesRest : carriedBy orders record = true := carries.2
      intro other member key isKey
      rcases List.mem_cons.mp member with rfl | member
      · obtain ⟨datum, found⟩ := Option.isSome_iff_exists.mp carries.1
        obtain ⟨value, wrapped, orderable⟩ := touchedHere carriesRest datum found
        have keyed : value.sortRank = key := by
          simpa [Record.sortKey?, found, wrapped, Except.toOption] using isKey
        exact ⟨value, orderable, keyed⟩
      · exact ih touchedRest carriesRest other member key isKey

end FieldOrder

namespace Store

variable {ι : Type} {record : ι → Record} {related : ι → ι → Prop}

theorem sortPairs_eq (record : ι → Record) (direction : Direction) {rank : ι → Value.Rank}
    {source : List ι}
    (sortable : ∀ i ∈ source, (rank i).Sortable) (arranged : source.Pairwise related) :
    ∃ sorted : List ι,
      (match direction with
        | .ascending => stableSort (fun a b : Value.Rank × Record => a.1.less b.1)
            (source.map fun i => (rank i, record i))
        | .descending => stableSortDescending (fun a b : Value.Rank × Record => a.1.less b.1)
            (source.map fun i => (rank i, record i))) = sorted.map (fun i => (rank i, record i)) ∧
      sorted.Perm source ∧
      sorted.Pairwise fun i j => direction.Before (rank i) (rank j) ∨
        ¬ direction.Before (rank j) (rank i) ∧ related i j := by
  have order := Value.Rank.ordersByKey.comp (Prod.fst : Value.Rank × Record → Value.Rank)
  have orderSource := Value.Rank.ordersByKey.comp rank
  cases direction with
  | ascending =>
      refine ⟨_, stableSort_map order sortable,
        (stableSort_stablySorted orderSource sortable).ties.perm, ?_⟩
      simpa [Direction.Before] using stableSort_pairwise orderSource sortable arranged
  | descending =>
      refine ⟨_, stableSortDescending_map order sortable,
        (stableSortDescending_stablySorted orderSource sortable).ties.perm, ?_⟩
      simpa [Direction.Before] using stableSortDescending_pairwise orderSource sortable arranged

theorem rankRecords_map {field : String} {source : List ι}
    (wraps : ∀ i ∈ source, ∀ datum, Dictionary.get? (record i) field = some datum → datum.Wraps) :
    rankRecords field (source.map record) = .ok
      ((source.filter fun i => (Dictionary.get? (record i) field).isSome).map fun i =>
        (((record i).sortKey? field).getD ⟨0, none⟩, record i)) := by
  induction source with
  | nil => rfl
  | cons i rest ih =>
      have others := ih fun j member => wraps j (by simp [member])
      cases found : Dictionary.get? (record i) field with
      | none => simp [rankRecords, found, others]
      | some datum =>
          obtain ⟨value, wrapped⟩ := wraps i (by simp) datum found
          simp [rankRecords, found, others, wrapped, Record.sortKey?, bind, Except.bind,
            Except.toOption]

/-- One pass: the records that have the field, sorted by it. -/
theorem sortRecords_map {order : FieldOrder} {source : List ι}
    (sortable : ∀ i ∈ source, ∀ datum, Dictionary.get? (record i) order.field = some datum →
      ∃ value : Value, datum.wrap = .ok value ∧ value.Orderable)
    (arranged : source.Pairwise related) :
    ∃ sorted : List ι, sortRecords order (source.map record) = .ok (sorted.map record) ∧
      sorted.Perm (source.filter fun i => (Dictionary.get? (record i) order.field).isSome) ∧
      sorted.Pairwise fun i j => order.Before (record i) (record j) ∨
        ¬ order.Before (record j) (record i) ∧ related i j := by
  let rank (i : ι) : Value.Rank := ((record i).sortKey? order.field).getD ⟨0, none⟩
  let kept := source.filter fun i => (Dictionary.get? (record i) order.field).isSome
  have keyed : ∀ i ∈ kept, (record i).sortKey? order.field = some (rank i) ∧ (rank i).Sortable := by
    intro i member
    obtain ⟨inSource, isSome⟩ := List.mem_filter.mp member
    obtain ⟨datum, found⟩ := Option.isSome_iff_exists.mp isSome
    obtain ⟨value, wrapped, orderable⟩ := sortable i inSource datum found
    have key : (record i).sortKey? order.field = some value.sortRank := by
      simp [Record.sortKey?, found, wrapped, Except.toOption]
    exact ⟨by simp [rank, key], value, orderable, by simp [rank, key]⟩
  have before_iff : ∀ i ∈ kept, ∀ j ∈ kept,
      (order.Before (record i) (record j) ↔ order.direction.Before (rank i) (rank j)) := by
    intro i memberI j memberJ
    simp [FieldOrder.Before, (keyed i memberI).1, (keyed j memberJ).1]
  have ranked : rankRecords order.field (source.map record) = _ :=
    rankRecords_map fun i member datum found =>
      (sortable i member datum found).imp fun value both => both.1
  obtain ⟨sorted, eq, perm, lex⟩ := sortPairs_eq record order.direction (fun i member =>
    (keyed i member).2) (arranged.sublist List.filter_sublist)
  refine ⟨sorted, ?_, perm, ?_⟩
  · have images := congrArg (List.map Prod.snd) eq
    rw [List.map_map] at images
    rw [sortRecords, ranked]
    exact congrArg Except.ok images
  · refine lex.imp_of_mem fun {i j} memberI memberJ => ?_
    rw [before_iff i (perm.mem_iff.mp memberI) j (perm.mem_iff.mp memberJ),
      before_iff j (perm.mem_iff.mp memberJ) i (perm.mem_iff.mp memberI)]
    exact id

/-- All passes: the records that have all fields, sorted lexicographically. -/
theorem sortByAll_map {orders : List FieldOrder} {source : List ι}
    (sortable : ∀ i ∈ source, FieldOrder.TouchesSortable orders (record i))
    (arranged : source.Pairwise related) :
    ∃ sorted : List ι, sortByAll orders (source.map record) = .ok (sorted.map record) ∧
      sorted.Perm (source.filter fun i => FieldOrder.carriedBy orders (record i)) ∧
      sorted.Pairwise fun i j => LexBefore FieldOrder.Before orders (record i) (record j) ∨
        ¬ LexBefore FieldOrder.Before orders (record j) (record i) ∧ related i j := by
  induction orders with
  | nil =>
      exact ⟨source, rfl, by simp [FieldOrder.carriedBy],
        arranged.imp fun before => .inr ⟨id, before⟩⟩
  | cons order orders ih =>
      obtain ⟨sorted, eq, perm, lex⟩ := ih fun i member => (sortable i member).1
      have touched : ∀ i ∈ sorted, ∀ datum,
          Dictionary.get? (record i) order.field = some datum →
            ∃ value : Value, datum.wrap = .ok value ∧ value.Orderable := by
        intro i member
        obtain ⟨inSource, carries⟩ := List.mem_filter.mp (perm.mem_iff.mp member)
        exact (sortable i inSource).2 carries
      obtain ⟨again, eqAgain, permAgain, lexAgain⟩ := sortRecords_map touched lex
      refine ⟨again, by simp [sortByAll, eq, eqAgain, bind, Except.bind], ?_, ?_⟩
      · refine permAgain.trans ((perm.filter _).trans (.of_eq ?_))
        rw [List.filter_filter]
        exact List.filter_congr fun i _ => by simp [FieldOrder.carriedBy]
      · refine lexAgain.imp fun {i j} both => ?_
        simp only [LexBefore]
        tauto

end Store

end DerivedQuery
