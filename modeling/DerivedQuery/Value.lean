import DerivedQuery.Number.Double
import DerivedQuery.Time.Moment

/-!
# Typed store values

A store value carries its type. Entities hold named values in order and lists hold values;
timestamps are kept in UTC.
-/

set_option autoImplicit false

namespace DerivedQuery

/-- A value as a datastore keeps it. -/
inductive Value where
  | null
  | boolean (b : Bool)
  | long (n : Int)
  | double (d : Double)
  | string (s : String)
  | blob (bytes : List UInt8)
  | timestamp (t : DateTime)
  | entity (properties : List (String × Value))
  | list (elements : List Value)
  deriving Repr

/-- The types of store values. -/
inductive ValueType where
  | null | boolean | long | double | string | blob | timestamp | entity | list
  deriving DecidableEq, Repr

namespace ValueType

/-- The name of a type in capitals. -/
def name : ValueType → String
  | .null => "NULL"
  | .boolean => "BOOLEAN"
  | .long => "LONG"
  | .double => "DOUBLE"
  | .string => "STRING"
  | .blob => "BLOB"
  | .timestamp => "TIMESTAMP"
  | .entity => "ENTITY"
  | .list => "LIST"

end ValueType

namespace Value

/-- The type that a value carries. -/
def type : Value → ValueType
  | .null => .null
  | .boolean _ => .boolean
  | .long _ => .long
  | .double _ => .double
  | .string _ => .string
  | .blob _ => .blob
  | .timestamp _ => .timestamp
  | .entity _ => .entity
  | .list _ => .list

/-- Is this the null value? -/
def isNull : Value → Bool
  | .null => true
  | _ => false

end Value

end DerivedQuery
