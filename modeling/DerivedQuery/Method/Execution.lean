import DerivedQuery.Method
import DerivedQuery.Model.Attribute

/-!
# Executing query methods

A call builds its query, hands it to a backend and shapes what comes back: a count, the answer
whether there is anything, or the list of results, each projected where the method has a projection.
-/

set_option autoImplicit false

namespace DerivedQuery

namespace Item

/-- The result as an entity of another model. An entity that is one of that model already stays as
it is; any other result is read by its attributes or keys. -/
def toModel (view : Model) : Item → Except Failure Item
  | .entity e =>
      if e.model.isA view then .ok (.entity e) else (view.validate e.attribute?).map .entity
  | .datum d =>
      match d.readings? with
      | some readings => (view.validate readings).map .entity
      | none => .error (.invalidData [("", .unreadable)])

/-- One attribute of a result. -/
def property (name : String) : Item → Except Failure Item
  | .entity e => (e.readAttribute name).map .datum
  | .datum d => (d.readAttribute name).map .datum

/-- The elements of a result; those of an entity are its properties with their values. -/
def pairs : Item → Except Failure Item
  | .entity e =>
      .ok (.datum (.list (e.values.map fun entry => .tuple [.text entry.1, entry.2])))
  | .datum d => d.elements.map fun items => .datum (.list items)

/-- The result as a dictionary. A property of an entity must not stand in for the method that lists
the keys of a dictionary. -/
def dictionary : Item → Except Failure Item
  | .entity e =>
      match e.get? "keys" with
      | some d => .error (.notCallable d.qualifiedTypeName)
      | none => .ok (.datum e.toDictionary)
  | .datum d => d.toDictionary.map .datum

end Item

namespace Projection

/-- What a projection makes of a result. -/
def apply : Projection → Item → Except Failure Item
  | .model view => Item.toModel view
  | .property name => Item.property name
  | .pairs => Item.pairs
  | .dictionary => Item.dictionary

end Projection

/-- Where queries are sent. -/
inductive Backend where
  /-- Finds nothing. -/
  | silent
  /-- Finds the same data every time. -/
  | canned (items : List Datum)
  /-- Fails every time. -/
  | failing (message : String)
  /-- Looks into a store. -/
  | store (records : Store)
  deriving Repr

namespace Store

/-- Answers a query with entities of a type and logs how many records were found. The type is looked
at only after the records have been found. -/
def answer (store : Store) (query : StructuredQuery) (entity : TypeReference) :
    Logged (List Entity) := do
  let records ← store.select query
  Logged.write .store .debug <|
    "Query on kind " ++ query.kind ++ " matched " ++ toString records.length ++ " records"
  let model ← entity.toModel
  loadAll model records

/-- Logs that objects were saved. -/
def logSaved (items : List Item) : Logged Unit :=
  Logged.write .store .debug ("Saved " ++ toString items.length ++ " entities")

end Store

namespace Backend

/-- What a backend does with a query that it has received. -/
def find (backend : Backend) (query : StructuredQuery) (model : Model) : Logged (List Item) :=
  match backend with
  | .silent => pure []
  | .canned items => pure (items.map .datum)
  | .failing message => Logged.ofExcept (.error (.backend message))
  | .store records => do
      let entities ← records.answer query (.model model)
      pure (entities.map .entity)

/-- The results of a query for entities of a model, which the backend receives. -/
def answer (backend : Backend) (query : StructuredQuery) (model : Model) : Logged (List Item) := do
  Logged.send query model
  backend.find query model

end Backend

/-- What a call returns. -/
inductive Outcome where
  | count (n : Nat)
  | «exists» (found : Bool)
  | items (items : List Item)
  deriving Repr

namespace CompiledQuery

/-- The results of a call, neither shaped nor projected. -/
def raw (settings : Settings) (backend : Backend) (query : CompiledQuery)
    (arguments : List Datum) : Logged (List Item) := do
  let built ← query.buildLogged settings arguments
  backend.answer built query.model

/-- The results as the method shapes them. -/
def shaped (query : CompiledQuery) (items : List Item) : Except Failure Outcome :=
  match query.shape with
  | .count => .ok (.count items.length)
  | .exists => .ok (.exists !items.isEmpty)
  | .entityList =>
      match query.projection with
      | none => .ok (.items items)
      | some projection => (items.mapM projection.apply).map .items

/-- The result of a call. -/
def execute (settings : Settings) (backend : Backend) (query : CompiledQuery)
    (arguments : List Datum) : Logged Outcome := do
  let items ← query.raw settings backend arguments
  query.shaped items

end CompiledQuery

end DerivedQuery
