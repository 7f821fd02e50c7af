import DerivedQuery.Model.Storage

/-!
# Mapping between entities and records

Queries name fields by the keys of the model of their entities. A model maps its own entities and
those of models that extend it; an object that is of no model has no record.
-/

set_option autoImplicit false

namespace DerivedQuery

namespace TypeReference

/-- The model that is meant. It is looked up as a key before anything else is asked of it. -/
def toModel : TypeReference → Except Failure Model
  | .model described => .ok described
  | .changeable typeName _ => .error (.unhashable typeName)
  | reference => .error (.notAModel reference.name)

end TypeReference

namespace Model

/-- The key that queries use for a property. -/
def fieldName (model : Model) (property : String) : Except Failure String :=
  match Dictionary.get? model.queryKeys property with
  | some key => .ok key
  | none => .error (.noSuchProperty property model.name model.kindName)

/-- The record of an entity of this model, or of one that extends it. -/
def toRecord (model : Model) (entity : Entity) : Except Failure Record :=
  if entity.model.isA model then entity.model.dump entity.values
  else .error (.otherModel model.name entity.model.name model.kindName)

/-- The kind of a model and its keys, as a text. -/
def describe (model : Model) : String :=
  let keys := Datum.object (model.queryKeys.map fun entry => (entry.1, .text entry.2))
  "<EntityMetadata kind=" ++ Text.quoted model.kindName ++ " fields=" ++ keys.written ++ ">"

end Model

namespace Item

/-- The kind of an object with its record. Store values have a model of their own. -/
def toRecord : Item → Except Failure (String × Record)
  | .entity e => do
      let record ← e.model.toRecord e
      .ok (e.model.kindName, record)
  | .datum (.wrapped value) => .ok ("Value", value.toRecord)
  | .datum d => .error (.notAModel d.typeName)

end Item

end DerivedQuery
