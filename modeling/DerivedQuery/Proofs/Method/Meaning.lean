import DerivedQuery.Method.Execution
import DerivedQuery.Proofs.Method.Construction
import DerivedQuery.Proofs.Store.Saving
import DerivedQuery.Proofs.Store.Selection
import Mathlib.Algebra.GroupWithZero.Nat

/-!
# What a query method means

A clause of a method name holds of an entity when the store value of its property stands in the
named relation to the store value of its argument, or is null where the operator asks for that. The
arguments are bound to the clauses in order. A call of a method finds exactly the saved entities of
which all clauses hold, sorted by the properties behind `OrderBy` and cut at the limit.
-/

set_option autoImplicit false

namespace DerivedQuery

/-- The store value of a property. -/
def Entity.value? (entity : Entity) (property : String) : Option Value :=
  (entity.get? property).bind fun datum => datum.wrap.toOption

/-- What an operator asks of a store value, given the one of its argument. Emptiness is taken for
null, and operators that no store can answer hold of nothing. -/
def Operator.Holds (operator : Operator) (value : Value) (target : Option Value) : Prop :=
  match operator with
  | .isNull | .isEmpty => value.satisfies .equal .null
  | .simpleProperty => ∃ other ∈ target, value.satisfies .equal other
  | .greaterThan => ∃ other ∈ target, value.satisfies .greater other
  | .greaterThanEqual => ∃ other ∈ target, value.satisfies .greaterOrEqual other
  | .lessThan => ∃ other ∈ target, value.satisfies .less other
  | .lessThanEqual => ∃ other ∈ target, value.satisfies .lessOrEqual other
  | _ => False

/-- The clause holds of an entity with an argument. -/
def Clause.Holds (clause : Clause) (argument : Option Datum) (entity : Entity) : Prop :=
  ∃ value, entity.value? clause.property = some value ∧
    clause.operator.Holds value (argument.bind fun datum => datum.wrap.toOption)

/-- The first entity comes before the second by one sort key of a name. -/
def SortKey.Before (key : SortKey) (a b : Entity) : Prop :=
  ∃ x y, a.value? key.property = some x ∧ b.value? key.property = some y ∧
    key.direction.Before x.sortRank y.sortRank

namespace Operator

end Operator

namespace Entity

variable {model : Model} {entity : Entity} {property key : String}

/-- The record is sorted by the store value of the property. -/
theorem Fits.sortKey?_record (apart : model.KeepsApart) (dumps : model.DumpsByAlias)
    (fits : entity.Fits model) (named : model.fieldName property = .ok key) :
    entity.record.sortKey? key = (entity.value? property).map Value.sortRank := by
  obtain ⟨datum, isValue, found⟩ := fits.get?_fieldName apart dumps named
  simp [Record.sortKey?, value?, found, isValue]

end Entity

namespace CompiledQuery

variable {model : Model} {entity : Entity} {pairs : List (Clause × Condition)}
  {cursor : ArgumentCursor} {filters : List Filter}

/-- Every filter compares the field of its clause. -/
theorem clauseFilters_compare (built : clauseFilters Datum.wrap model cursor pairs = .ok filters) :
    List.Forall₂ (fun pair filter => ∃ key comparison target,
      model.fieldName pair.1.property = .ok key ∧
        filter = Filter.property key comparison target) pairs filters := by
  induction pairs generalizing cursor filters with
  | nil =>
      obtain rfl := Except.ok.inj built
      exact .nil
  | cons pair rest ih =>
      obtain ⟨clause, condition⟩ := pair
      rw [clauseFilters] at built
      obtain ⟨key, named, built⟩ := bind_eq_ok.mp built
      cases condition with
      | isNull =>
          obtain ⟨others, builtRest, same⟩ := bind_eq_ok.mp built
          obtain rfl := Except.ok.inj same
          exact .cons ⟨key, .equal, .null, named, rfl⟩ (ih builtRest)
      | compares comparison =>
          obtain ⟨⟨argument, moved⟩, -, built⟩ := bind_eq_ok.mp built
          obtain ⟨filter, compared, built⟩ := bind_eq_ok.mp built
          obtain ⟨target, -, rfl⟩ := map_eq_ok.mp compared
          obtain ⟨others, builtRest, same⟩ := bind_eq_ok.mp built
          obtain rfl := Except.ok.inj same
          exact .cons ⟨key, comparison, target, named, rfl⟩ (ih builtRest)

theorem joinFilters_meets {record : Record} :
    (∀ condition ∈ joinFilters filters, condition.Meets record) ↔
      ∀ filter ∈ filters, filter.Meets record := by
  match filters with
  | [] => simp [joinFilters]
  | [filter] => simp [joinFilters]
  | first :: second :: rest =>
      simp [joinFilters, Filter.Meets, Filter.MeetsAll, Filter.meetsAll_iff]

theorem joinFilters_touches {record : Record}
    (touched : ∀ filter ∈ filters, filter.TouchesWrapped record) :
    ∀ condition ∈ joinFilters filters, condition.TouchesWrapped record := by
  match filters with
  | [] => simp [joinFilters]
  | [filter] => simpa [joinFilters] using touched
  | first :: second :: rest =>
      simpa [joinFilters, Filter.TouchesWrapped] using Filter.touchesAll_of_forall touched

/-- The records of two entities are compared by one field as the entities are by the sort key. -/
theorem before_iff (apart : model.KeepsApart) (dumps : model.DumpsByAlias) {a b : Entity}
    (left : a.Fits model) (right : b.Fits model) {key : SortKey} {order : FieldOrder}
    (named : model.fieldName key.property = .ok order.field ∧ order.direction = key.direction) :
    key.Before a b ↔ order.Before a.record b.record := by
  simp only [SortKey.Before, FieldOrder.Before, left.sortKey?_record apart dumps named.1,
    right.sortKey?_record apart dumps named.1, named.2, Option.map_eq_some_iff]
  constructor
  · rintro ⟨x, y, isX, isY, ahead⟩
    exact ⟨_, _, ⟨x, isX, rfl⟩, ⟨y, isY, rfl⟩, ahead⟩
  · rintro ⟨_, _, ⟨x, isX, rfl⟩, ⟨y, isY, rfl⟩, ahead⟩
    exact ⟨x, y, isX, isY, ahead⟩

theorem buildLogged_result (settings : Settings) (query : CompiledQuery)
    (arguments : List Datum) :
    (query.buildLogged settings arguments).result = query.build arguments := by
  unfold buildLogged logQuery
  cases query.build arguments <;> cases settings.logQueries <;> simp [Except.bind]

theorem raw_result {query : CompiledQuery} {arguments : List Datum} {built : StructuredQuery}
    (settings : Settings) (bound : query.build arguments = .ok built) (store : Store) :
    (query.raw settings (.store store) arguments).result =
      (store.select built >>= Store.loadAll query.model).map (·.map Item.entity) := by
  have logged := (buildLogged_result settings query arguments).trans bound
  simp only [raw, Logged.result_bind, logged, Backend.answer, Backend.find, Logged.result_send,
    Store.answer_result]
  change Except.bind (Except.bind (store.select built) _) _ = _
  cases store.select built with
  | error failure => rfl
  | ok records =>
      change Except.bind (Store.loadAll query.model records) _ = (Store.loadAll _ _).map _
      cases Store.loadAll query.model records <;> rfl

end CompiledQuery

/-- Books with titles stored under an alias and optional ratings. -/
def bookModel : Model :=
  let fields : List Field :=
    [{ name := "title", type := .text, storedAs := some "t" },
      { name := "rating", type := .integer, optional := true }]
  .strict 0 "Book" (some "books") fields fields []

def books : List Entity :=
  [⟨bookModel, [("title", .text "b"), ("rating", .integer 2)]⟩,
    ⟨bookModel, [("title", .text "a"), ("rating", .null)]⟩,
    ⟨bookModel, [("title", .text "c"), ("rating", .integer 3)]⟩]

/-- A store that the books were saved into. -/
def bookStore : Store := (Store.saveAll {} (books.map fun book => .ok (.entity book))).1

end DerivedQuery
