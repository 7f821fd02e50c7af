import DerivedQuery.Datum.Elements
import DerivedQuery.Datum.Record

/-!
# Attributes of data

Some attributes of data are data themselves: the parts of numbers and moments, the ends of a range,
the type and the content of a store value. All others are methods, of which only the kind shows.
-/

set_option autoImplicit false

namespace DerivedQuery

/-- The methods of classes that make objects. -/
def Datum.makerNames : List String := ["from_bytes", "fromhex", "fromkeys", "maketrans"]

/-- The names of the methods of types, by type. -/
def Datum.methodNames (typeName : String) : List String :=
  let names (text : String) : List String := text.splitOn " "
  let ofText := "capitalize center count endswith expandtabs find index isalnum isalpha isascii " ++
    "isdigit islower isspace istitle isupper join ljust lower lstrip maketrans partition " ++
    "removeprefix removesuffix replace rfind rindex rjust rpartition rsplit rstrip split " ++
    "splitlines startswith strip swapcase title translate upper zfill"
  let ofDate := "ctime fromisocalendar fromisoformat fromordinal fromtimestamp isocalendar " ++
    "isoformat isoweekday replace strftime timetuple today toordinal weekday"
  let ofMembers := "copy difference intersection isdisjoint issubset issuperset " ++
    "symmetric_difference union"
  match typeName with
  | "bool" | "int" => names "as_integer_ratio bit_count bit_length conjugate from_bytes to_bytes"
  | "float" => names "as_integer_ratio conjugate fromhex hex is_integer"
  | "complex" => ["conjugate"]
  | "str" =>
      names (ofText ++ " casefold encode format format_map isdecimal isidentifier isnumeric " ++
        "isprintable")
  | "bytes" => names (ofText ++ " decode fromhex hex")
  | "bytearray" =>
      names (ofText ++ " append clear copy decode extend fromhex hex insert pop remove reverse")
  | "dict" => names "clear copy fromkeys get items keys pop popitem setdefault update values"
  | "list" => names "append clear copy count extend index insert pop remove reverse sort"
  | "tuple" | "range" => ["count", "index"]
  | "set" =>
      names (ofMembers ++ " add clear difference_update discard intersection_update pop remove " ++
        "symmetric_difference_update update")
  | "frozenset" => names ofMembers
  | "datetime.datetime" =>
      names (ofDate ++ " astimezone combine date dst now strptime time timestamp timetz tzname " ++
        "utcfromtimestamp utcnow utcoffset utctimetuple")
  | "datetime.date" => names ofDate
  | "datetime.timedelta" => ["total_seconds"]
  | "decimal.Decimal" =>
      names <| "adjusted as_integer_ratio as_tuple canonical compare compare_signal " ++
        "compare_total compare_total_mag conjugate copy_abs copy_negate copy_sign exp fma " ++
        "from_float is_canonical is_finite is_infinite is_nan is_normal is_qnan is_signed " ++
        "is_snan is_subnormal is_zero ln log10 logb logical_and logical_invert logical_or " ++
        "logical_xor max max_mag min min_mag next_minus next_plus next_toward normalize " ++
        "number_class quantize radix remainder_near rotate same_quantum scaleb shift sqrt " ++
        "to_eng_string to_integral to_integral_exact to_integral_value"
  | _ => []

namespace Moment

/-- An attribute of a moment that is a number. -/
def part? (m : Moment) (name : String) : Option Nat :=
  match name with
  | "year" => some m.clock.date.year
  | "month" => some m.clock.date.month
  | "day" => some m.clock.date.day
  | "hour" => some m.clock.hour.val
  | "minute" => some m.clock.minute.val
  | "second" => some m.clock.second.val
  | "microsecond" => some m.clock.microsecond.val
  | "fold" => some 0
  | _ => none

end Moment

namespace Value

/-- A store value as a record. -/
def shape (value : Value) : RecordShape where
  settings := .object [("frozen", .boolean true), ("arbitrary_types_allowed", .boolean true)]
  declared := [("type", "EnumType"), ("value", "_AnyMeta")]
  fieldNames := ["type", "value"]
  contents := .object [("type", .text value.type.name), ("value", value.content)]
  isKey := true

/-- An attribute of a store value. -/
def attribute? (value : Value) (name : String) : Option Datum :=
  match name with
  | "type" => some (.text value.type.name)
  | "value" => some value.content
  | "is_null" => some (.boolean value.isNull)
  | "get" | "to_dict" => some RecordShape.method
  | _ => value.shape.attribute? name

end Value

namespace Datum

/-- An attribute of a number: its real or imaginary part, or a part of it as a fraction. -/
def integerPart? (n : Int) (name : String) : Option Datum :=
  match name with
  | "real" | "numerator" => some (.integer n)
  | "imag" => some (.integer 0)
  | "denominator" => some (.integer 1)
  | _ => none

/-- An attribute of a datum that is a datum itself. -/
def dataAttribute? (name : String) : Datum → Option Datum
  | .boolean b => integerPart? (if b then 1 else 0) name
  | .integer n => integerPart? n name
  | .double d =>
      match name with
      | "real" => some (.double d)
      | "imag" => some (.double (Double.ofInt 0))
      | _ => none
  | .moment m =>
      match m.part? name, name with
      | some n, _ => some (.integer n)
      | none, "tzinfo" =>
          some (if m.offset.isSome then .foreign (.other "timezone") else .null)
      | none, "resolution" => some (.foreign (.other "timedelta"))
      | none, "min" => (DateTime.ofSinceStart? 0).map fun t => .moment ⟨t, none⟩
      | none, "max" => (DateTime.ofSinceStart? (3652059 * 86400000000 - 1)).map fun t =>
          .moment ⟨t, none⟩
      | none, _ => none
  | .foreign (.range stop) =>
      match name with
      | "start" => some (.integer 0)
      | "stop" => some (.integer stop)
      | "step" => some (.integer 1)
      | _ => none
  | .foreign (.decimal value) =>
      match name with
      | "real" => some (.foreign (.decimal value))
      | "imag" => some (.foreign (.decimal ⟨0, 0⟩))
      | "__module__" => some (.text "decimal")
      | _ => none
  | .foreign (.day date) =>
      match name with
      | "year" => some (.integer date.year)
      | "month" => some (.integer date.month)
      | "day" => some (.integer date.day)
      | _ => none
  | .foreign (.days count) =>
      match name with
      | "days" => some (.integer count)
      | "seconds" | "microseconds" => some (.integer 0)
      | _ => none
  | .foreign (.imaginary part) =>
      match name with
      | "real" => some (.double (Double.ofInt 0))
      | "imag" => some (.double (Double.ofInt part))
      | _ => none
  | .foreign (.classObject typeName) =>
      if (integerPart? 0 name).isSome then some (.foreign (.other "getset_descriptor"))
      else if (methodNames typeName).contains name then
        some (.foreign (.other (if makerNames.contains name then "builtin_function_or_method"
          else "method_descriptor")))
      else classInnerAttribute? typeName name
  | .wrapped value => value.attribute? name
  | .record _ contents => Dictionary.get? contents name
  | _ => none

/-- The attributes of dates and spans of time that tell of the whole type. -/
def limit? (typeName name : String) : Option Datum :=
  match typeName, name with
  | "date", "min" | "date", "max" => some (.foreign (.other "date"))
  | "date", "resolution" | "timedelta", "resolution" | "timedelta", "min"
  | "timedelta", "max" => some (.foreign (.other "timedelta"))
  | _, _ => none

/-- The name of the type of the type of a datum. -/
def metatypeName : Datum → String
  | .wrapped _ => "ModelMetaclass"
  | _ => "type"

/-- An attribute of a datum. -/
def attribute? (d : Datum) (name : String) : Option Datum :=
  match d.dataAttribute? name with
  | some found => some found
  | none =>
      if name = "__class__" then some (.foreign (.other d.metatypeName))
      else if (methodNames d.qualifiedTypeName).contains name then
        some (.foreign (.other "builtin_function_or_method"))
      else limit? d.typeName name <|> innerAttribute? d.qualifiedTypeName name

/-- What a message names when a datum lacks an attribute. -/
def attributeOwner : Datum → AttributeOwner
  | .wrapped _ => .described "Value"
  | .foreign (.classObject name) => .classObject name
  | d => .object d.qualifiedTypeName

/-- An attribute of a datum, which has to be there. -/
def readAttribute (d : Datum) (name : String) : Except Failure Datum :=
  match d.attribute? name with
  | some found => .ok found
  | none => .error (.noAttribute d.attributeOwner name)

end Datum

end DerivedQuery
