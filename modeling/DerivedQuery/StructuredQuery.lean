import DerivedQuery.Filter

/-!
# Structured queries

A structured query names a kind of records, and may hold a filter, fields to sort by and a limit.
-/

set_option autoImplicit false

namespace DerivedQuery

/-- A field to sort by. -/
structure FieldOrder where
  field : String
  direction : Direction
  deriving DecidableEq, Repr

namespace FieldOrder

/-- The document of a field order. -/
def rest (order : FieldOrder) : Datum :=
  .object [("property", .object [("name", .text order.field)]),
    ("direction", .text order.direction.name)]

end FieldOrder

/-- A query for records of one kind. -/
structure StructuredQuery where
  kind : String
  filter : Option Filter := none
  orders : List FieldOrder := []
  limit : Option Int := none
  deriving Repr

namespace StructuredQuery

/-- The document of a query. Absent parts are left out, and so is an empty sort order. -/
def rest (query : StructuredQuery) : Datum :=
  .object <|
    [("kind", .list [.object [("name", .text query.kind)]])] ++
    (query.filter.map fun filter => ("filter", filter.rest)).toList ++
    (if query.orders.isEmpty then [] else [("order", .list (query.orders.map FieldOrder.rest))]) ++
    (query.limit.map fun limit => ("limit", .integer limit)).toList

end StructuredQuery

/-- A query in the making. -/
structure QueryBuilder where
  kind : Option String := none
  filter : Option Filter := none
  orders : List FieldOrder := []
  limit : Option Int := none
  deriving Repr

namespace QueryBuilder

/-- Replaces the sort order by one of at least one key. -/
def setOrders (builder : QueryBuilder) : List FieldOrder → Except Failure QueryBuilder
  | [] => .error .emptyOrder
  | orders => .ok { builder with orders }

/-- The query that has been described so far; it needs a kind. -/
def build (builder : QueryBuilder) : Except Failure StructuredQuery :=
  match builder.kind with
  | none => .error .noKind
  | some kind => .ok ⟨kind, builder.filter, builder.orders, builder.limit⟩

end QueryBuilder

end DerivedQuery
