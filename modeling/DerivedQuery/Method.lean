import DerivedQuery.Log.Queries
import DerivedQuery.Store

/-!
# Query methods

A query method is a name with the type of its entities and an optional projection of the results.
Compiling it reads the name and settles the condition of every clause, so that a name that the
datastore cannot answer fails before any call. Each call then builds a structured query from its
arguments.
-/

set_option autoImplicit false

namespace DerivedQuery

/-- What a query method makes of each entity. -/
inductive Projection where
  /-- An entity of another model with the same properties. -/
  | model (view : Model)
  /-- One attribute. -/
  | property (name : String)
  /-- The list of elements, which for an entity are its properties and values. -/
  | pairs
  /-- The dictionary of properties and values. -/
  | dictionary
  deriving Repr

/-- A method of a repository. -/
structure QueryMethod where
  name : String
  entity : TypeReference
  projection : Option Projection
  deriving Repr

namespace QueryMethod

/-- A method whose projection is given; projecting an entity to its own model is no projection. -/
def declare (name : String) (entity : TypeReference) (projection : Option Projection) :
    QueryMethod :=
  match entity, projection with
  | .model model, some (.model view) =>
      ⟨name, entity, if model.id == view.id then none else some (.model view)⟩
  | _, _ => ⟨name, entity, projection⟩

/-- The name of a method and of its entity type. -/
def describe (method : QueryMethod) : String :=
  "<QueryMethod " ++ method.name ++ " entity=" ++ method.entity.name ++ ">"

end QueryMethod

/-- What a call returns. -/
inductive ResultShape where
  | count
  | «exists»
  | entityList
  deriving DecidableEq, Repr

namespace ResultShape

/-- The name of a shape. -/
def name : ResultShape → String
  | .count => "count"
  | .exists => "exists"
  | .entityList => "entity_list"

/-- The shape that a verb asks for. -/
def ofVerb : Verb → ResultShape
  | .count => .count
  | .exists => .exists
  | _ => .entityList

end ResultShape

/-- What a clause asks of the store. -/
inductive Condition where
  | isNull
  | compares (comparison : Comparison)
  deriving DecidableEq, Repr

namespace Operator

/-- The condition behind an operator, where the datastore can filter on it. Emptiness is taken for
null, because the store has no other notion of it. -/
def condition? : Operator → Option Condition
  | .isNull | .isEmpty => some .isNull
  | .simpleProperty => some (.compares .equal)
  | .greaterThanEqual => some (.compares .greaterOrEqual)
  | .greaterThan => some (.compares .greater)
  | .lessThanEqual => some (.compares .lessOrEqual)
  | .lessThan => some (.compares .less)
  | _ => none

end Operator

/-- A compiled query method. -/
structure CompiledQuery where
  method : String
  model : Model
  projection : Option Projection
  name : QueryName
  clauses : List (Clause × Condition)
  deriving Repr

namespace CompiledQuery

/-- What the calls return. -/
def shape (query : CompiledQuery) : ResultShape := .ofVerb query.name.verb

/-- Is there a projection? -/
def isProjecting (query : CompiledQuery) : Bool := query.projection.isSome

end CompiledQuery

namespace QueryMethod

/-- The conditions of clauses; the first clause that the datastore cannot filter on is reported. -/
def conditions (method : String) : List Clause → Except Failure (List (Clause × Condition))
  | [] => .ok []
  | clause :: rest =>
      match clause.operator.condition? with
      | none => .error (.operator method clause.property clause.operator)
      | some condition => (conditions method rest).map ((clause, condition) :: ·)

/-- Compiles a method. -/
def compile (method : QueryMethod) : Except Failure CompiledQuery := do
  let name ← (QueryName.parse method.name).mapError fun fault => .badName fault method.name
  let model ← method.entity.toModel
  if name.verb.isDelete then .error (.deleteQuery method.name)
  else if name.distinct then .error (.distinctQuery method.name)
  else if 1 < name.groups.length then .error (.disjunctiveQuery method.name)
  else do
    let clauses ← conditions method.name name.clauses
    .ok ⟨method.name, model, method.projection, name, clauses⟩

/-- Compiles a method and logs what was bound. -/
def compileLogged (settings : Settings) (method : QueryMethod) : Logged CompiledQuery := do
  let query ← method.compile
  Logged.write .queryMethod settings.messageLevel <|
    "Bound query method " ++ method.name ++ ": kind=" ++ query.model.kindName ++ " filters=" ++
      toString query.clauses.length ++ " shape=" ++ query.shape.name
  pure query

end QueryMethod

/-- The arguments of a call that no clause has taken yet. -/
structure ArgumentCursor where
  method : String
  remaining : List Datum
  consumed : Nat := 0
  deriving Repr

namespace ArgumentCursor

/-- The next argument. -/
def next (cursor : ArgumentCursor) : Except Failure (Datum × ArgumentCursor) :=
  match cursor.remaining with
  | [] => .error (.tooFewArguments cursor.method cursor.consumed)
  | argument :: rest =>
      .ok (argument, { cursor with remaining := rest, consumed := cursor.consumed + 1 })

end ArgumentCursor

namespace CompiledQuery

/-- The filters of clauses. Each clause looks up its property first and then takes its argument,
which is wrapped. -/
def clauseFilters (wrap : Datum → Except Failure Value) (model : Model) (cursor : ArgumentCursor) :
    List (Clause × Condition) → Except Failure (List Filter)
  | [] => .ok []
  | (clause, condition) :: rest => do
      let field ← model.fieldName clause.property
      match condition with
      | .isNull => do
          let filters ← clauseFilters wrap model cursor rest
          .ok (.isNull field :: filters)
      | .compares comparison => do
          let (argument, cursor) ← cursor.next
          let filter ← (wrap argument).map (.property field comparison)
          let filters ← clauseFilters wrap model cursor rest
          .ok (filter :: filters)

/-- One filter stands for itself, several are joined. -/
def joinFilters : List Filter → Option Filter
  | [] => none
  | [filter] => some filter
  | filters => some (.composite "AND" filters)

/-- The query for the arguments of a call, which are wrapped in the given way. -/
def buildWith (wrap : Datum → Except Failure Value) (query : CompiledQuery)
    (arguments : List Datum) : Except Failure StructuredQuery := do
  let filters ← clauseFilters wrap query.model ⟨query.method, arguments, 0⟩ query.clauses
  let orders ← query.name.orders.mapM fun key => do
    let field ← query.model.fieldName key.property
    .ok ⟨field, key.direction⟩
  .ok
    { kind := query.model.kindName
      filter := joinFilters filters
      orders
      limit := query.name.limit.map Int.ofNat }

/-- The query for the arguments of a call. -/
def build (query : CompiledQuery) (arguments : List Datum) : Except Failure StructuredQuery :=
  query.buildWith Datum.wrap arguments

/-- Builds the query for the arguments of a call and logs it where queries are logged. -/
def buildLogged (settings : Settings) (query : CompiledQuery) (arguments : List Datum) :
    Logged StructuredQuery := do
  let built ← query.build arguments
  logQuery settings .queryMethod query.method built
  pure built

end CompiledQuery

end DerivedQuery
