import DerivedQuery.Model.Storage
import DerivedQuery.Model.Validation

/-!
# Declared models

Models that are declared by their fields validate data strictly and store entities under the storage
keys of the fields. A model may extend another one; it then has the fields of its base first, each
replaced in place where the model declares a field of the same name.
-/

set_option autoImplicit false

namespace DerivedQuery

/-- The model that does what its fields say. -/
def Model.strict (id : Nat) (name : String) (kind : Option String) (fields : List Field)
    (ownFields : List Field) (ancestors : List Nat) : Model where
  id
  name
  kind
  fields
  ownFields
  ancestors
  ofRecord record := Field.readAll fields (Dictionary.get? record)
  ofAttributes := Field.readAll fields
  dump values := .ok (Field.storeAll fields values)

/-- A model as it is declared. -/
structure ModelDeclaration where
  name : String
  /-- `none` leaves the kind to the base; `some none` declares that there is no kind of its own. -/
  kind : Option (Option String) := none
  base : Option String := none
  fields : List Field
  deriving Repr

/-- The declared models, the latest first. -/
abbrev Catalog := List Model

namespace Catalog

/-- The latest model of a name. -/
def find? (catalog : Catalog) (name : String) : Option Model :=
  List.find? (fun model => model.name == name) catalog

/-- The fields of a base followed by new ones; a field of a known name replaces the one of the base.
-/
def extendFields (base fields : List Field) : List Field :=
  (Dictionary.ofEntries ((base ++ fields).map fun field => (field.name, field))).map Prod.snd

/-- The catalog with one more model. A base that is not in the catalog is left out. -/
def declare (catalog : Catalog) (declaration : ModelDeclaration) : Catalog :=
  let base := declaration.base.bind catalog.find?
  let kind := match declaration.kind with
    | some kind => kind
    | none => base.bind Model.kind
  Model.strict catalog.length declaration.name kind
    (extendFields ((base.map Model.fields).getD []) declaration.fields) declaration.fields
    ((base.map fun model => model.id :: model.ancestors).getD []) :: catalog

/-- The catalog of declarations, one after the other. -/
def ofDeclarations (declarations : List ModelDeclaration) : Catalog :=
  declarations.foldl declare []

end Catalog

end DerivedQuery
