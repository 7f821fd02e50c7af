import DerivedQuery.Value.Comparison
import DerivedQuery.Value.Rest
import DerivedQuery.Value.Wrap

/-!
# Filters

A filter compares one field with a value, or joins filters. A record meets a joined filter when it
meets all its parts, whatever the name of the junction. A record without the field meets no
comparison.
-/

set_option autoImplicit false

namespace DerivedQuery

/-- A condition on records. -/
inductive Filter where
  | property (field : String) (comparison : Comparison) (value : Value)
  | composite (junction : String) (filters : List Filter)
  deriving Repr

namespace Filter

/-- Compares a field with the store value of a datum. -/
def compare (field : String) (comparison : Comparison) (datum : Datum) : Except Failure Filter :=
  datum.wrap.map fun value => .property field comparison value

/-- Asks whether a field is null. -/
def isNull (field : String) : Filter := .property field .equal .null

/-- Joins one or more filters by `AND`. -/
def conjunction : List Filter → Except Failure Filter
  | [] => .error .emptyConjunction
  | filters => .ok (.composite "AND" filters)

mutual

/-- The document of a filter. -/
def rest : Filter → Datum
  | .property field comparison value =>
      .object [("propertyFilter", .object
        [("property", .object [("name", .text field)]), ("op", .text comparison.name),
          ("value", value.rest)])]
  | .composite junction filters =>
      .object [("compositeFilter", .object
        [("op", .text junction), ("filters", .list (restAll filters))])]

/-- The documents of filters. -/
def restAll : List Filter → List Datum
  | [] => []
  | filter :: others => rest filter :: restAll others

end

/-- Does a record meet a comparison? Fails when the stored datum has no store value. -/
def propertyMatches (field : String) (comparison : Comparison) (value : Value) (record : Record) :
    Except Failure Bool :=
  match Dictionary.get? record field with
  | none => .ok false
  | some datum => datum.wrap.map fun stored => stored.satisfies comparison value

mutual

/-- Does a record meet a filter? The parts of a joined filter are tried in order, up to the first
that is not met or fails. -/
def matches? (record : Record) : Filter → Except Failure Bool
  | .property field comparison value => propertyMatches field comparison value record
  | .composite _ filters => matchesAll? record filters

/-- Does a record meet all filters? -/
def matchesAll? (record : Record) : List Filter → Except Failure Bool
  | [] => .ok true
  | filter :: others => do
      let met ← matches? record filter
      if met then matchesAll? record others else .ok false

end

end Filter

end DerivedQuery
