import DerivedQuery.Failure

/-!
# Entity models

A model describes the entities of one kind: its fields with their types, the names under which they
are stored, and what stands in for a field that is not given. How data become an entity and an
entity becomes a record is up to the class behind the model.
-/

set_option autoImplicit false

namespace DerivedQuery

/-- What a field may hold. -/
structure FieldType where
  /-- The datum as the type takes it; `none` when it is of another type. -/
  accept? : Datum → Option Datum
  /-- The code of the fault of a datum that is of another type. -/
  code : String
  /-- The kind of what is declared as the type. -/
  kind : String := "type"

instance : Repr FieldType := ⟨fun type _ => type.code⟩

/-- One property of a model. -/
structure Field where
  name : String
  type : FieldType
  /-- Null is accepted as well. -/
  optional : Bool := false
  /-- The name under which the property is stored, if it is another one. -/
  storedAs : Option String := none
  /-- What an absent field holds; without it the field is required. -/
  fallback : Option Datum := none
  deriving Repr

namespace Field

/-- The kind of what is declared as the type of the property. -/
def typeKind (field : Field) : String :=
  if field.optional then "_UnionGenericAlias" else field.type.kind

/-- The key under which the property is stored. -/
def storageKey (field : Field) : String := field.storedAs.getD field.name

/-- The key that a query uses for the property: an empty alias does not count. -/
def queryKey (field : Field) : String :=
  if field.storageKey = "" then field.name else field.storageKey

end Field

/-- The values of the fields of an entity, or what is wrong with the data for them. -/
abbrev Reading := Except (List (String × DataFault)) (List (String × Datum))

/-- A model. Models are told apart by `id`, the number of their declaration. What its class makes
of data and of entities may be anything. -/
structure Model where
  id : Nat
  name : String
  kind : Option String
  fields : List Field
  /-- The fields that the model itself declares. -/
  ownFields : List Field
  /-- The models that this one extends, directly or not. -/
  ancestors : List Nat
  /-- What a record is read as. -/
  ofRecord : Record → Reading
  /-- What an object with attributes is read as. -/
  ofAttributes : (String → Option Datum) → Reading
  /-- The record of the values of an entity. -/
  dump : List (String × Datum) → Except Failure Record

instance : Repr Model := ⟨fun model _ => model.name⟩

namespace Model

/-- The name of the module that models are declared in. -/
def moduleName : String := "__main__"

/-- The name of a model within its module, by which texts show models as classes. -/
def qualifiedName (model : Model) : String := moduleName ++ "." ++ model.name

/-- What all models are set up with: data are not converted, and fields may be named by their
properties. -/
def settings : Datum :=
  .object [("strict", .boolean true), ("populate_by_name", .boolean true)]

/-- The kind of the entities: the declared one, or the name of the model when that is empty. -/
def kindName (model : Model) : String :=
  match model.kind with
  | some kind => if kind = "" then model.name else kind
  | none => model.name

/-- Is an entity of the first model also one of the second? -/
def isA (model other : Model) : Bool :=
  model.id == other.id || model.ancestors.contains other.id

/-- The key that a query uses for each property. -/
def queryKeys (model : Model) : List (String × String) :=
  model.fields.map fun field => (field.name, field.queryKey)

end Model

/-- An entity: a model with a value for each of its fields. -/
structure Entity where
  model : Model
  values : List (String × Datum)
  deriving Repr

namespace Entity

/-- The value of a property. -/
def get? (entity : Entity) (property : String) : Option Datum :=
  Dictionary.get? entity.values property

end Entity

namespace Model

/-- The entity that a reading gives. -/
def entity (model : Model) (reading : Reading) : Except Failure Entity :=
  match reading with
  | .ok values => .ok ⟨model, values⟩
  | .error faults => .error (.invalidData faults)

/-- The entity that an object with attributes is read as. -/
def validate (model : Model) (lookup : String → Option Datum) : Except Failure Entity :=
  model.entity (model.ofAttributes lookup)

/-- The entity that a record describes. -/
def load (model : Model) (record : Record) : Except Failure Entity :=
  model.entity (model.ofRecord record)

end Model

/-- An object that may be stored or found: an entity, or anything else. -/
inductive Item where
  | entity (entity : Entity)
  | datum (datum : Datum)
  deriving Repr

/-- What may be named where a model is expected. -/
inductive TypeReference where
  | model (described : Model)
  /-- A class that is no model. -/
  | plainClass (name : String)
  /-- Something that is no class, by its text. -/
  | noClass (text : String)
  /-- Something that cannot be a key, by its type and its text. -/
  | changeable (typeName text : String)
  deriving Repr

namespace TypeReference

/-- The name that messages use. -/
def name : TypeReference → String
  | .model described => described.name
  | .plainClass name => name
  | .noClass text | .changeable _ text => text

end TypeReference

end DerivedQuery
