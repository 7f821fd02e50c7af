import DerivedQuery.Meaning.Known
import DerivedQuery.Model.Attribute

/-!
# Attributes of meanings

Classes have their names, types with arguments their classes and arguments, and data what data have.
Of most other attributes only the kind is known. Names between pairs of low lines belong to the
workings of objects.
-/

set_option autoImplicit false

namespace DerivedQuery.Meaning

/-- The names that belong to the workings of all objects, without the low lines. -/
def objectNames : List String :=
  "class" :: "doc" :: Datum.commonOperatorNames ++ Datum.commonFunctionNames

/-- The names that belong to the workings of classes besides those of all objects. -/
def classNames : List String :=
  ("base bases basicsize call dict dictoffset flags instancecheck itemsize module mro name or " ++
    "prepare qualname ror subclasscheck subclasses text_signature weakrefoffset").splitOn " "

/-- The names that belong to the workings of a type besides those of all objects. -/
def typeNames (typeName : String) : List String :=
  let names (text : String) : List String := text.splitOn " "
  match typeName with
  | "NotImplementedType" => ["bool"]
  | "function" =>
      names ("annotations builtins call closure code defaults dict get globals kwdefaults " ++
        "module name qualname")
  | "builtin_function_or_method" => names "call module name qualname self text_signature"
  | "types.UnionType" => names "args getitem or parameters ror"
  | "types.GenericAlias" =>
      names ("args call getitem iter mro_entries origin parameters " ++
        "typing_unpacked_tuple_args unpacked") ++ classNames
  | "_SpecialForm" =>
      names ("call getattr getitem instancecheck iter module mro_entries name or qualname ror " ++
        "slots subclasscheck weakref")
  | "_SpecialGenericAlias" | "_GenericAlias" | "_UnionGenericAlias" =>
      names ("call dict getattr getitem instancecheck iter module mro_entries name or origin " ++
        "qualname ror slots subclasscheck weakref") ++
        (if typeName = "_SpecialGenericAlias" then [] else ["args", "parameters"])
  | "generator" => names "del iter name next qualname"
  | _ =>
      if failureNames.contains typeName then
        names "cause context dict setstate suppress_context traceback"
      else if typeName = "type" then classNames
      else Datum.operatorNames typeName ++ Datum.functionNames typeName

/-- Does a name belong to the workings of the objects of a type? -/
def isInner (typeName name : String) : Bool :=
  isInnerName objectNames name || isInnerName (typeNames typeName) name

/-- The names of the parts of the objects of a type that are worked out when they are asked for. -/
def reckonedNames (typeName : String) : List String :=
  match typeName with
  | "bool" | "int" => ["denominator", "imag", "numerator", "real"]
  | "float" => ["imag", "real"]
  | "memoryview" =>
      ("c_contiguous contiguous f_contiguous format itemsize nbytes ndim obj readonly shape " ++
        "strides suboffsets").splitOn " "
  | _ => if failureNames.contains typeName then ["args"] else []

/-- The failures of the system around. -/
def systemFailureNames : List String :=
  ("BlockingIOError BrokenPipeError ChildProcessError ConnectionAbortedError ConnectionError " ++
    "ConnectionRefusedError ConnectionResetError FileExistsError FileNotFoundError " ++
    "InterruptedError IsADirectoryError NotADirectoryError OSError PermissionError " ++
    "ProcessLookupError TimeoutError").splitOn " "

/-- The names of the parts of the objects of a type that they hold. -/
def keptNames (typeName : String) : List String :=
  let names (text : String) : List String := text.splitOn " "
  match typeName with
  | "complex" => ["imag", "real"]
  | "range" | "slice" => ["start", "step", "stop"]
  | "property" => ["fdel", "fget", "fset"]
  | "dict_keys" | "dict_values" | "dict_items" => ["mapping"]
  | "generator" => names "gi_code gi_frame gi_running gi_suspended gi_yieldfrom"
  | "SyntaxError" | "IndentationError" | "TabError" =>
      names "end_lineno end_offset filename lineno msg offset print_file_and_line text"
  | "StopIteration" => ["value"]
  | "SystemExit" => ["code"]
  | "ImportError" | "ModuleNotFoundError" => ["msg", "name", "path"]
  | "NameError" | "UnboundLocalError" => ["name"]
  | "AttributeError" => ["name", "obj"]
  | "UnicodeDecodeError" | "UnicodeEncodeError" | "UnicodeTranslateError" =>
      names "encoding end object reason start"
  | "BaseExceptionGroup" | "ExceptionGroup" => ["exceptions", "message"]
  | _ =>
      if systemFailureNames.contains typeName then
        names "characters_written errno filename filename2 strerror"
      else []

/-- The names of the methods of the objects of a type. -/
def methodNames (typeName : String) : List String :=
  match typeName with
  | "slice" => ["indices"]
  | "property" => ["deleter", "getter", "setter"]
  | "memoryview" => ["cast", "hex", "release", "tobytes", "tolist", "toreadonly"]
  | "generator" => ["close", "send", "throw"]
  | "dict_keys" | "dict_items" => ["isdisjoint"]
  | "type" => ["mro"]
  | "Sequence" => ["count", "index"]
  | "BaseExceptionGroup" | "ExceptionGroup" =>
      ["add_note", "derive", "split", "subgroup", "with_traceback"]
  | "_SpecialForm" => ["_getitem", "_name"]
  | "_SpecialGenericAlias" => ["_inst", "_name", "_nparams", "copy_with"]
  | "_GenericAlias" | "_UnionGenericAlias" =>
      ["_determine_new_args", "_inst", "_make_substitution", "_name", "_paramspec_tvars",
        "copy_with"]
  | _ =>
      if failureNames.contains typeName then ["add_note", "with_traceback"]
      else Datum.methodNames typeName

/-- An attribute of a class. -/
def classAttribute (className name : String) : Except Failure Meaning :=
  let shown (kind : String) := "<" ++ kind ++ " " ++ Text.quoted name ++ " of " ++
    Text.quoted className ++ " objects>"
  if name = "__name__" ∨ name = "__qualname__" then .ok (text className)
  else if isInner className name || isInnerName classNames name then .ok .unknown
  else if (reckonedNames className).contains name then
    .ok (.object "getset_descriptor" (shown "attribute"))
  else if (keptNames className).contains name then
    .ok (.object "member_descriptor" (shown "member"))
  else if name = "mro" || (methodNames className).contains name then
    if Datum.makerNames.contains name || (name = "mro" && className != "type") then
      .ok (.object "builtin_function_or_method" ("<built-in method " ++ name ++ ">"))
    else .ok (.object "method_descriptor" (shown "method"))
  else .error (.noAttribute (.classObject className) name)

/-- The names that belong to the workings of models besides those of all classes. -/
def modelNames : List String :=
  ("abstractmethods annotations class_getitem class_vars copy deepcopy fields fields_set " ++
    "get_pydantic_core_schema get_pydantic_json_schema getattr iter pretty private_attributes " ++
    "pydantic_complete pydantic_computed_fields pydantic_core_schema pydantic_custom_init " ++
    "pydantic_decorators pydantic_extra pydantic_fields pydantic_fields_set " ++
    "pydantic_generic_metadata pydantic_init_subclass pydantic_parent_namespace " ++
    "pydantic_post_init pydantic_private pydantic_root_model pydantic_serializer " ++
    "pydantic_setattr_handlers pydantic_validator replace repr_args repr_name repr_recursion " ++
    "repr_str rich_repr setstate signature slots").splitOn " "

/-- The names of the methods that models have as classes, not their entities. -/
def makingNames : List String :=
  ["construct", "from_orm", "model_construct", "model_json_schema", "model_parametrized_name",
    "model_rebuild", "model_validate", "model_validate_json", "model_validate_strings",
    "parse_file", "parse_obj", "parse_raw", "schema", "schema_json", "update_forward_refs",
    "validate"]

/-- What all models are set up with. -/
def modelSettings : Meaning :=
  match Model.settings with
  | .dict entries => .dictionary (entries.map fun entry => (.datum entry.1, .datum entry.2))
  | _ => .unknown

/-- An attribute of a model. -/
def modelAttribute (described : Model) (name : String) : Except Failure Meaning :=
  match name, described.kind with
  | "__name__", _ | "__qualname__", _ => .ok (text described.name)
  | "__module__", _ => .ok (text Model.moduleName)
  | "__kind__", some kind => .ok (text kind)
  | "__kind__", none => .error (.noAttribute .model name)
  | "model_config", _ => .ok modelSettings
  | "model_fields", _ =>
      .ok (.dictionary (described.fields.map fun field => (text field.name, .unknown)))
  | "model_computed_fields", _ => .ok (.dictionary [])
  | "model_extra", _ | "model_fields_set", _ => .ok (.object "property" "<property object>")
  | "mro", _ => .ok (.object "builtin_function_or_method" "<built-in method mro>")
  | _, _ =>
      if isInnerName objectNames name || isInnerName classNames name ||
          isInnerName modelNames name then
        .ok .unknown
      else if makingNames.contains name then
        .ok (.object "method" ("<bound method " ++ name ++ ">"))
      else if RecordShape.methodNames.contains name then
        .ok (.object "function" ("<function " ++ name ++ ">"))
      else .error (.noAttribute .model name)

/-- An attribute of an object, by the type of the object. -/
def objectAttribute (typeName name : String) : Except Failure Meaning :=
  if isInner typeName name then .ok .unknown
  else if (methodNames typeName).contains name then
    .ok (.object "builtin_function_or_method" ("<built-in method " ++ name ++ ">"))
  else if (reckonedNames typeName).contains name || (keptNames typeName).contains name then
    .ok .unknown
  else .error (.noAttribute (.object typeName) name)

/-- An attribute of a datum or a collection. -/
def valueAttribute (value : Meaning) (name : String) : Except Failure Meaning :=
  let data? : Option Datum := match value with
    | .datum found => found.dataAttribute? name
    | _ => none
  match data? with
  | some (.foreign _) => .ok .unknown
  | some found => .ok (.datum found)
  | none =>
      if (Datum.methodNames value.typeName).contains name then .ok (.method value name)
      else objectAttribute value.typeName name

/-- The name of the class behind a form. -/
def classBehind (name : String) : String := if name = "List" then "list" else name

/-- An attribute of a form with or without arguments, by its type and the name of the form, where a
class is behind it. Names between pairs of low lines are looked up in the form only. -/
def formAttribute (typeName : String) (form : Option String) (name : String) :
    Except Failure Meaning :=
  if isInner typeName name || (methodNames typeName).contains name then .ok .unknown
  else
    match form with
    | some found =>
        if name.startsWith "__" && name.endsWith "__" then .error (.noAttribute .model name)
        else classAttribute (classBehind found) name
    | none => .error (.noAttribute .model name)

/-- The name of a form, with or without arguments. -/
def formName? (meaning : Meaning) : Option String :=
  match meaning with
  | .form name | .applied true name _ => some name
  | .either true [_, .builtinClass "NoneType"] | .either true [.builtinClass "NoneType", _] =>
      some "Optional"
  | .either true _ => some "Union"
  | _ => none

/-- An attribute of a type with arguments, by its own type: `isSpread` says whether it is spread,
and `isForm` whether it comes from a form. -/
def appliedMember (typeName : String) (isForm isSpread : Bool) (className : String)
    (arguments : List Meaning) (name : String) : Except Failure Meaning :=
  match name with
  | "__args__" => .ok (.tuple arguments)
  | "__unpacked__" => if isForm then .error (.noAttribute .model name) else .ok (truth isSpread)
  | "__origin__" =>
      if isClassName (classBehind className) then .ok (.builtinClass (classBehind className))
      else .ok .unknown
  | "__name__" | "__qualname__" => .ok (text className)
  | _ =>
      if isForm then formAttribute typeName (some className) name
      else if isInner typeName name then .ok .unknown
      else classAttribute className name

/-- An attribute of a meaning besides its class. -/
def ownMember (base : Meaning) (name : String) : Except Failure Meaning :=
  match base with
  | .unknown => .ok .unknown
  | .datum _ | .list _ | .tuple _ | .set _ _ | .dictionary _ => valueAttribute base name
  | .model described => modelAttribute described name
  | .builtinClass className =>
      if name = "__class_getitem__" && genericClassNames.contains className then
        .ok (.method base name)
      else classAttribute className name
  | .form "Any" => classAttribute "Any" name
  | .form formName =>
      if name = "__getitem__" then .ok (.method base name)
      else if name = "__origin__" && formName = "List" then .ok (.builtinClass "list")
      else formAttribute base.typeName (if formName = "Optional" then none else some formName) name
  | .either true members =>
      if name = "__args__" then .ok (.tuple members) else formAttribute base.typeName none name
  | .applied isForm className arguments =>
      appliedMember base.typeName isForm false className arguments name
  | .spread (.applied false className arguments) =>
      appliedMember base.typeName false true className arguments name
  | .spread item =>
      if name = "__args__" then .ok (.tuple [item]) else formAttribute "_GenericAlias" none name
  | .slice first last step =>
      match name with
      | "start" => .ok first
      | "stop" => .ok last
      | "step" => .ok step
      | _ => objectAttribute "slice" name
  | .closure path _ _ _ _ _ =>
      if name = "__name__" then .ok (text "<lambda>")
      else if name = "__qualname__" then .ok (text path)
      else objectAttribute "function" name
  | .function functionName =>
      if name = "__name__" ∨ name = "__qualname__" then .ok (text functionName)
      else objectAttribute "builtin_function_or_method" name
  | meaning => objectAttribute meaning.typeName name

/-- An attribute of a meaning. -/
def member (base : Meaning) (name : String) : Except Failure Meaning :=
  if name = "__class__" then .ok base.classOf
  else
    match base.formName?, name with
    | some found, "__name__" | some found, "__qualname__" => .ok (text found)
    | _, _ => base.ownMember name

end DerivedQuery.Meaning
