import DerivedQuery.Datum

/-!
# Inner attributes

Names between pairs of low lines belong to the workings of objects: operators, calls and the
functions that are known everywhere ask for them. Of what such a name stands for only the kind is
known, and the kind depends on the type of the object. Names are listed without their low lines.
-/

set_option autoImplicit false

namespace DerivedQuery

/-- Is a name one of the given ones between pairs of low lines? -/
def isInnerName (names : List String) (name : String) : Bool :=
  names.any fun inner => name == "__" ++ inner ++ "__"

namespace Datum

/-- What operators ask of all objects. -/
def commonOperatorNames : List String :=
  ("delattr eq ge getattribute gt hash init le lt ne repr setattr str").splitOn " "

/-- What functions ask of all objects. -/
def commonFunctionNames : List String :=
  ("dir format getstate init_subclass new reduce reduce_ex sizeof subclasshook").splitOn " "

/-- What operators ask of numbers. -/
def numberOperatorNames : List String :=
  ("abs add bool mul neg pos pow radd rmul rpow rsub rtruediv sub truediv").splitOn " "

/-- What operators ask of real numbers besides. -/
def realOperatorNames : List String :=
  ("divmod float floordiv int mod rdivmod rfloordiv rmod").splitOn " "

/-- What operators ask of sequences. -/
def sequenceOperatorNames : List String := ["add", "contains", "iter", "len", "mul", "rmul"]

/-- What operators ask of the objects of a type besides what they ask of all. -/
def operatorNames (typeName : String) : List String :=
  let names (text : String) : List String := text.splitOn " "
  match typeName with
  | "NoneType" => ["bool"]
  | "bool" | "int" =>
      numberOperatorNames ++ realOperatorNames ++
        names "and index invert lshift or rand rlshift ror rrshift rshift rxor xor"
  | "float" | "decimal.Decimal" => numberOperatorNames ++ realOperatorNames
  | "complex" => numberOperatorNames
  | "str" | "bytes" => sequenceOperatorNames ++ ["getitem", "mod", "rmod"]
  | "bytearray" =>
      sequenceOperatorNames ++ names "delitem getitem iadd imul mod rmod setitem"
  | "list" => sequenceOperatorNames ++ ["delitem", "iadd", "imul", "setitem"]
  | "tuple" => sequenceOperatorNames ++ ["getitem"]
  | "dict" => ["delitem", "ior", "iter", "len", "or", "ror", "setitem"]
  | "set" => names "and iand ior isub iter ixor len or rand ror rsub rxor sub xor"
  | "frozenset" => names "and iter len or rand ror rsub rxor sub xor"
  | "range" => ["bool", "contains", "getitem", "iter", "len"]
  | "datetime.datetime" | "datetime.date" => ["add", "radd", "rsub", "sub"]
  | "datetime.timedelta" =>
      names ("abs add bool divmod floordiv mod mul neg pos radd rdivmod rfloordiv rmod rmul " ++
        "rsub rtruediv sub truediv")
  | _ => []

/-- What functions ask of the objects of a type besides what they ask of all. -/
def functionNames (typeName : String) : List String :=
  match typeName with
  | "bool" | "int" => ["ceil", "floor", "getnewargs", "round", "trunc"]
  | "float" => ["ceil", "floor", "getformat", "getnewargs", "round", "trunc"]
  | "decimal.Decimal" => ["ceil", "complex", "copy", "deepcopy", "floor", "round", "trunc"]
  | "complex" => ["complex", "getnewargs"]
  | "str" => ["getnewargs"]
  | "bytes" => ["bytes", "getnewargs"]
  | "bytearray" => ["alloc"]
  | "list" => ["class_getitem", "getitem", "reversed"]
  | "tuple" => ["class_getitem", "getnewargs"]
  | "dict" => ["class_getitem", "contains", "getitem", "reversed"]
  | "set" | "frozenset" => ["class_getitem", "contains"]
  | "range" => ["reversed"]
  | _ => []

/-- The types whose objects cannot be keys. -/
def changeableTypeNames : List String := ["bytearray", "dict", "list", "set"]

/-- An inner attribute of an object of a type. An object that cannot be a key has nothing where
others tell what they are found by. -/
def innerAttribute? (typeName name : String) : Option Datum :=
  if name = "__hash__" && changeableTypeNames.contains typeName then some .null
  else if isInnerName (commonOperatorNames ++ operatorNames typeName) name then
    some (.foreign (.other "method-wrapper"))
  else if isInnerName (commonFunctionNames ++ functionNames typeName) name then
    some (.foreign (.other "builtin_function_or_method"))
  else none

/-- What operators ask of the objects of the class of integers and its like, as the class keeps it.
-/
def classInnerAttribute? (typeName name : String) : Option Datum :=
  let kind (typeName : String) : Option Datum := some (.foreign (.other typeName))
  let aboutClass := ["dir", "format", "getstate", "reduce", "reduce_ex", "sizeof"]
  let ofClass := ["init_subclass", "instancecheck", "new", "prepare", "subclasscheck",
    "subclasses", "subclasshook"]
  match name with
  | "__name__" | "__qualname__" => some (.text typeName)
  | "__module__" => some (.text "builtins")
  | "__base__" => kind "type"
  | "__bases__" => some (.tuple [.foreign (.other "type")])
  | "__mro__" => some (.tuple [.foreign (.other "type"), .foreign (.other "type")])
  | "__dict__" => kind "mappingproxy"
  | "__text_signature__" => some .null
  | "__dictoffset__" | "__weakrefoffset__" => some (.integer 0)
  | "__call__" => kind "method-wrapper"
  | "mro" => kind "builtin_function_or_method"
  | _ =>
      if isInnerName ofClass name then kind "builtin_function_or_method"
      else if isInnerName (aboutClass ++ (functionNames typeName)) name then
        kind "method_descriptor"
      else if isInnerName (commonOperatorNames ++ operatorNames typeName) name then
        kind "wrapper_descriptor"
      else none

end Datum

end DerivedQuery
