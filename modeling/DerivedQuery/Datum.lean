import DerivedQuery.Number.Shortest
import DerivedQuery.Value

/-!
# Application data

What callers pass as arguments and what records hold: plain data of any nesting. Two kinds of byte
strings and two kinds of sequences are kept apart, dictionaries may have keys of any kind, a store
value may appear among plain data, and so may objects with fields and objects that have no store
type.
-/

set_option autoImplicit false

namespace DerivedQuery

/-- An object without a store type. -/
inductive ForeignObject where
  /-- The whole numbers from zero up to a bound. -/
  | range (stop : Nat)
  /-- A decimal number. -/
  | decimal (value : Decimal)
  /-- A set of whole numbers, which may or may not be changed. -/
  | numbers (frozen : Bool) (members : List Int)
  /-- A date. -/
  | day (date : Date)
  /-- A span of whole days. -/
  | days (count : Int)
  /-- A multiple of the imaginary unit other than zero. -/
  | imaginary (part : Int)
  /-- A class. -/
  | classObject (name : String)
  /-- Any other object, of which only the type is known. -/
  | other (typeName : String)
  deriving DecidableEq, Repr

namespace ForeignObject

/-- The name of the type of an object. -/
def typeName : ForeignObject → String
  | .range _ => "range"
  | .decimal _ => "Decimal"
  | .numbers frozen _ => if frozen then "frozenset" else "set"
  | .day _ => "date"
  | .days _ => "timedelta"
  | .imaginary _ => "complex"
  | .classObject _ => "type"
  | .other name => name

/-- The name of the type behind the name of the module that defines it, where the type is not
built in. -/
def qualifiedTypeName (object : ForeignObject) : String :=
  let name := object.typeName
  if ["date", "timedelta", "timezone"].contains name then "datetime." ++ name
  else if name = "Decimal" then "decimal." ++ name
  else name

end ForeignObject

/-- One piece of application data. -/
inductive Datum where
  | null
  | boolean (b : Bool)
  | integer (n : Int)
  | double (d : Double)
  | text (s : String)
  | bytes (bytes : List UInt8)
  | buffer (bytes : List UInt8)
  | moment (m : Moment)
  | dict (entries : List (Datum × Datum))
  | list (items : List Datum)
  | tuple (items : List Datum)
  | wrapped (value : Value)
  /-- An object of a class with fields, by the name of the class and the contents of the fields. -/
  | record (className : String) (contents : List (String × Datum))
  | foreign (object : ForeignObject)
  deriving Repr

namespace Datum

/-- The name of the type of a datum, as messages about values give it. -/
def typeName : Datum → String
  | .null => "NoneType"
  | .boolean _ => "bool"
  | .integer _ => "int"
  | .double _ => "float"
  | .text _ => "str"
  | .bytes _ => "bytes"
  | .buffer _ => "bytearray"
  | .moment _ => "datetime"
  | .dict _ => "dict"
  | .list _ => "list"
  | .tuple _ => "tuple"
  | .wrapped _ => "Value"
  | .record className _ => className
  | .foreign object => object.typeName

/-- The name of the type of a datum, as messages about the use of objects give it. -/
def qualifiedTypeName : Datum → String
  | .moment _ => "datetime.datetime"
  | .foreign object => object.qualifiedTypeName
  | d => d.typeName

/-- A dictionary with text keys. -/
def object (entries : List (String × Datum)) : Datum :=
  .dict (entries.map fun entry => (.text entry.1, entry.2))

/-- A datum as a quantity, where it is a number; truth values count as one and zero. -/
def quantity? : Datum → Option Quantity
  | .boolean b => some (Quantity.ofInt (if b then 1 else 0))
  | .integer n => some (Quantity.ofInt n)
  | .double d => d.quantity?
  | _ => none

/-- Does a condition on data hold? Nothing, zero and whatever is empty count as false. -/
def isTrue : Datum → Bool
  | .null => false
  | .boolean b => b
  | .integer n => n != 0
  | .double d => d.quantity? != some (Quantity.ofInt 0)
  | .text s => !s.isEmpty
  | .bytes content | .buffer content => !content.isEmpty
  | .dict entries => !entries.isEmpty
  | .list items | .tuple items => !items.isEmpty
  | .foreign (.range stop) => stop != 0
  | .foreign (.decimal value) => value.digits != 0
  | .foreign (.numbers _ members) => !members.isEmpty
  | .foreign (.days count) => count != 0
  | .moment _ | .wrapped _ | .record _ _ | .foreign _ => true

end Datum

/-- A stored record: data under storage keys. -/
abbrev Record := List (String × Datum)

end DerivedQuery
