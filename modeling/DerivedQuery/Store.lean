import DerivedQuery.Model.Mapping
import DerivedQuery.StableSort
import DerivedQuery.StructuredQuery
import DerivedQuery.Value.Rank

/-!
# The store

A store keeps records by kind, each kind in the order of saving. A query takes the records of its
kind that meet the filter, sorts them by its keys from the last to the first, drops the records that
lack a key, and cuts the result at the limit. A negative limit leaves out that many records at the
end.
-/

set_option autoImplicit false

namespace DerivedQuery

/-- The records of each kind. -/
structure Store where
  kinds : List (String × List Record) := []
  deriving Repr

namespace Store

/-- The records of a kind in the order of saving. -/
def records (store : Store) (kind : String) : List Record :=
  (Dictionary.get? store.kinds kind).getD []

/-- Appends a record to its kind. -/
def append (store : Store) (kind : String) (record : Record) : Store :=
  ⟨Dictionary.put kind (store.records kind ++ [record]) store.kinds⟩

/-- Saves an object that has a record. -/
def save (store : Store) (item : Item) : Except Failure Store := do
  let (kind, record) ← item.toRecord
  .ok (store.append kind record)

/-- Saves objects one after the other, each when it is made: the store after the last one that was
saved, and the objects unless one of them could not be made or saved. -/
def saveAll (store : Store) : List (Except Failure Item) → Store × Except Failure (List Item)
  | [] => (store, .ok [])
  | .error failure :: _ => (store, .error failure)
  | .ok item :: rest =>
      match store.save item with
      | .error failure => (store, .error failure)
      | .ok saved =>
          let (last, result) := saveAll saved rest
          (last, result.map (item :: ·))

/-- The number of records of a kind, or of all kinds. -/
def count (store : Store) : Option String → Nat
  | some kind => (store.records kind).length
  | none => (store.kinds.map fun entry => entry.2.length).foldr Nat.add 0

/-- The records that meet a filter, in order. Fails at the first record that cannot be tried. -/
def filterRecords (filter : Filter) : List Record → Except Failure (List Record)
  | [] => .ok []
  | record :: rest => do
      let met ← filter.matches? record
      let others ← filterRecords filter rest
      .ok (if met then record :: others else others)

/-- The records that have a field, each with the sort key of the field. Fails at the first datum
that has no store value. -/
def rankRecords (field : String) : List Record → Except Failure (List (Value.Rank × Record))
  | [] => .ok []
  | record :: rest =>
      match Dictionary.get? record field with
      | none => rankRecords field rest
      | some datum => do
          let value ← datum.wrap
          let others ← rankRecords field rest
          .ok ((value.sortRank, record) :: others)

/-- The records that have a field, sorted by it. -/
def sortRecords (order : FieldOrder) (records : List Record) : Except Failure (List Record) := do
  let ranked ← rankRecords order.field records
  let less (a b : Value.Rank × Record) : Bool := a.1.less b.1
  .ok <| (match order.direction with
    | .ascending => stableSort less ranked
    | .descending => stableSortDescending less ranked).map Prod.snd

/-- The records sorted by several fields, the last one first. -/
def sortByAll : List FieldOrder → List Record → Except Failure (List Record)
  | [], records => .ok records
  | order :: orders, records => do
      let sorted ← sortByAll orders records
      sortRecords order sorted

/-- The first records up to a limit; a negative one counts from the end. -/
def cut (limit : Option Int) (records : List Record) : List Record :=
  match limit with
  | none => records
  | some n => if 0 ≤ n then records.take n.toNat else records.take (records.length - n.natAbs)

/-- The records that a query selects, in its order. -/
def select (store : Store) (query : StructuredQuery) : Except Failure (List Record) := do
  let records := store.records query.kind
  let met ← match query.filter with
    | none => .ok records
    | some filter => filterRecords filter records
  let sorted ← sortByAll query.orders met
  .ok (cut query.limit sorted)

/-- The entities of records. -/
def loadAll (model : Model) (records : List Record) : Except Failure (List Entity) :=
  records.mapM model.load

end Store

end DerivedQuery
