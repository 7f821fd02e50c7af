import DerivedQuery.Datum.Attribute
import DerivedQuery.Model

/-!
# Attributes of entities

The attributes of an entity are its properties, the kind that its model declares, and what all
entities have in common. A property hides a common attribute of the same name.
-/

set_option autoImplicit false

namespace DerivedQuery

namespace Entity

/-- The properties and values of an entity as a dictionary. -/
def toDictionary (entity : Entity) : Datum := .object entity.values

/-- An entity as a record. -/
def shape (entity : Entity) : RecordShape where
  settings := Model.settings
  declared := entity.model.ownFields.map fun field => (field.name, field.typeKind)
  fieldNames := entity.model.fields.map Field.name
  contents := entity.toDictionary

/-- An attribute that all entities have. -/
def commonAttribute? (entity : Entity) (name : String) : Option Datum :=
  if name = "__module__" then some (.text Model.moduleName)
  else if name = "__doc__" then some .null
  else entity.shape.attribute? name

/-- An attribute of an entity. -/
def attribute? (entity : Entity) (name : String) : Option Datum :=
  match entity.get? name with
  | some value => some value
  | none =>
      match name, entity.model.kind with
      | "__kind__", some kind => some (.text kind)
      | _, _ => entity.commonAttribute? name

/-- An attribute of an entity, which has to be there. The signature is that of the model only. -/
def readAttribute (entity : Entity) (name : String) : Except Failure Datum :=
  let owner : AttributeOwner :=
    if name = "__signature__" then .classOnly entity.model.name
    else .described entity.model.name
  match entity.attribute? name with
  | some found => .ok found
  | none => .error (.noAttribute owner name)

end Entity

namespace Datum

/-- The attributes by which a datum may be read as an entity, where it has any: a dictionary is read
by its keys, a store value or a decimal number by its attributes. Beside one of these two, in a
pair, a dictionary may give further ones, which count first. -/
def readings? : Datum → Option (String → Option Datum)
  | .dict entries => some (valueUnder? entries)
  | .wrapped value => some value.attribute?
  | .foreign (.decimal value) => some (attribute? (.foreign (.decimal value)))
  | .tuple [.wrapped value, .dict entries] =>
      some fun name => (valueUnder? entries name).orElse fun _ => value.attribute? name
  | .tuple [.foreign (.decimal value), .dict entries] =>
      some fun name =>
        (valueUnder? entries name).orElse fun _ => attribute? (.foreign (.decimal value)) name
  | _ => none

end Datum

end DerivedQuery
