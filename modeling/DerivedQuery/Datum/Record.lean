import DerivedQuery.Datum.Inner

/-!
# Attributes of records

Entities and store values are records: objects of classes that were declared with fields. All
records have the same attributes besides their fields, by which they tell of their class, copy
themselves or write themselves down. Of most of these only the kind is known.
-/

set_option autoImplicit false

namespace DerivedQuery

/-- A record as an object of its class. -/
structure RecordShape where
  /-- What the class was set up with. -/
  settings : Datum
  /-- The names of the fields that the class itself declares, with the kinds of their types. -/
  declared : List (String × String)
  /-- The names of all fields. -/
  fieldNames : List String
  /-- The fields with their values. -/
  contents : Datum
  /-- May records of the class be keys? -/
  isKey : Bool := false

namespace RecordShape

/-- A method, as a datum. -/
def method : Datum := .foreign (.other "method")

/-- The names of the methods of all records. -/
def methodNames : List String :=
  ["construct", "copy", "dict", "from_orm", "json", "model_construct", "model_copy", "model_dump",
    "model_dump_json", "model_json_schema", "model_parametrized_name", "model_post_init",
    "model_rebuild", "model_validate", "model_validate_json", "model_validate_strings",
    "parse_file", "parse_obj", "parse_raw", "schema", "schema_json", "update_forward_refs",
    "validate"]

/-- The names of the methods of all records that are not meant to be called from elsewhere. -/
def hiddenMethodNames : List String :=
  ["_calculate_keys", "_copy_and_set_values", "_get_value", "_iter", "_setattr_handler"]

/-- The inner names of the methods of all records. -/
def innerMethodNames : List String :=
  ("class_getitem copy deepcopy delattr eq get_pydantic_core_schema get_pydantic_json_schema " ++
    "getattr getstate init iter pretty pydantic_init_subclass pydantic_on_complete replace repr " ++
    "repr_args repr_name repr_recursion repr_str rich_repr setattr setstate str").splitOn " "

/-- The kinds of attributes of which nothing else is known. -/
def kinds : List (String × String) :=
  [("__class__", "ModelMetaclass"), ("__fields_set__", "set"), ("model_fields_set", "set"),
    ("__pydantic_fields_set__", "set"), ("__class_vars__", "set"),
    ("__abstractmethods__", "frozenset"), ("_abc_impl", "_abc_data"),
    ("__pydantic_decorators__", "DecoratorInfos"),
    ("__pydantic_serializer__", "SchemaSerializer"),
    ("__pydantic_validator__", "SchemaValidator")]

/-- The attributes that are the same for all records. -/
def constants : List (String × Datum) :=
  [("model_extra", .null), ("__pydantic_extra__", .null), ("__pydantic_private__", .null),
    ("__pydantic_post_init__", .null), ("__pydantic_parent_namespace__", .null),
    ("__weakref__", .null), ("model_computed_fields", .dict []),
    ("__pydantic_computed_fields__", .dict []), ("__private_attributes__", .dict []),
    ("__pydantic_setattr_handlers__", .dict []), ("__pydantic_complete__", .boolean true),
    ("__pydantic_custom_init__", .boolean false), ("__pydantic_root_model__", .boolean false),
    ("__pydantic_generic_metadata__",
      .object [("origin", .null), ("args", .tuple []), ("parameters", .tuple [])]),
    ("__slots__",
      .tuple [.text "__dict__", .text "__pydantic_fields_set__", .text "__pydantic_extra__",
        .text "__pydantic_private__"])]

/-- An attribute of a record that is no field. -/
def attribute? (shape : RecordShape) (name : String) : Option Datum :=
  let kind (typeName : String) : Datum := .foreign (.other typeName)
  match name with
  | "__dict__" => some shape.contents
  | "__hash__" => some (if shape.isKey then method else .null)
  | "model_config" => some shape.settings
  | "model_fields" | "__pydantic_fields__" =>
      some (.object (shape.fieldNames.map fun field => (field, kind "FieldInfo")))
  | "__annotations__" =>
      some (.object (shape.declared.map fun field => (field.1, kind field.2)))
  | _ =>
      if methodNames.contains name || hiddenMethodNames.contains name ||
          isInnerName innerMethodNames name then
        some method
      else
        ((kinds.find? fun entry => entry.1 == name).map fun entry => kind entry.2)
          <|> ((constants.find? fun entry => entry.1 == name).map Prod.snd)
          <|> Datum.innerAttribute? "object" name

end RecordShape

end DerivedQuery
