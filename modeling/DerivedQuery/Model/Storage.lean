import DerivedQuery.Model

/-!
# Records of entities

An entity is stored as a record under the storage keys of its fields. Data are stored as they are,
but for objects with fields among them, store values included: these are stored as dictionaries of
their fields.
-/

set_option autoImplicit false

namespace DerivedQuery

mutual

/-- The content of a store value, in which every store value is taken apart into type and content.
-/
def Value.storedContent : Value → Datum
  | .null => .null
  | .boolean b => .boolean b
  | .long n => .integer n
  | .double d => .double d
  | .string s => .text s
  | .blob content => .bytes content
  | .timestamp t => .moment (.ofUtc t)
  | .entity properties => .dict (storedProperties properties)
  | .list elements => .tuple (storedElements elements)

/-- The elements of a list, each taken apart. -/
def storedElements : List Value → List Datum
  | [] => []
  | element :: rest =>
      Datum.object [("type", .text element.type.name), ("value", Value.storedContent element)] ::
        storedElements rest

/-- The properties of an entity, each taken apart. -/
def storedProperties : List (String × Value) → List (Datum × Datum)
  | [] => []
  | (name, value) :: rest =>
      (.text name,
        Datum.object [("type", .text value.type.name), ("value", Value.storedContent value)]) ::
        storedProperties rest

end

/-- The record of a store value. -/
def Value.toRecord (value : Value) : Record :=
  [("type", .text value.type.name), ("value", value.storedContent)]

mutual

/-- A datum as it is stored: unchanged, but for objects with fields inside it. -/
def Datum.stored : Datum → Datum
  | .wrapped value => .object value.toRecord
  | .record _ contents => .dict (storedContents contents)
  | .list items => .list (storedItems items)
  | .tuple items => .tuple (storedItems items)
  | .dict entries => .dict (storedEntries entries)
  | d => d

/-- The elements of a sequence as they are stored. -/
def storedItems : List Datum → List Datum
  | [] => []
  | item :: rest => Datum.stored item :: storedItems rest

/-- The entries of a dictionary as they are stored. -/
def storedEntries : List (Datum × Datum) → List (Datum × Datum)
  | [] => []
  | (key, item) :: rest => (key, Datum.stored item) :: storedEntries rest

/-- The fields of an object as they are stored. -/
def storedContents : List (String × Datum) → List (Datum × Datum)
  | [] => []
  | (name, item) :: rest => (.text name, Datum.stored item) :: storedContents rest

end

/-- The record of the values of fields. Two fields under one key share its place, and the later
value stays. -/
def Field.storeAll (fields : List Field) (values : List (String × Datum)) : Record :=
  Dictionary.ofEntries <| fields.map fun field =>
    (field.storageKey, ((Dictionary.get? values field.name).getD .null).stored)

end DerivedQuery
