import DerivedQuery.Model

/-!
# Strict validation

Data become an entity when every field of the model finds a datum of its type. A field looks for its
storage key first and then for its own name; if neither is there its fallback is taken unchecked.
Integers are accepted where doubles are asked for, and truth values are no numbers. All fields are
checked, and the faults of all are reported in the order of the fields.
-/

set_option autoImplicit false

namespace DerivedQuery

namespace FieldType

def anything : FieldType := ⟨some, "any_type", "_AnyMeta"⟩

def integer : FieldType where
  accept?
    | .integer n => some (.integer n)
    | _ => none
  code := "int_type"

def text : FieldType where
  accept?
    | .text s => some (.text s)
    | _ => none
  code := "string_type"

def boolean : FieldType where
  accept?
    | .boolean b => some (.boolean b)
    | _ => none
  code := "bool_type"

/-- The double nearest to an integer, unless the integer is too large. -/
def doubleOfInteger? (n : Int) : Option Datum :=
  match Double.ofInt n with
  | .infinite _ => none
  | d => some (.double d)

def double : FieldType where
  accept?
    | .double d => some (.double d)
    | .integer n => doubleOfInteger? n
    | _ => none
  code := "float_type"

def moment : FieldType where
  accept?
    | .moment m => some (.moment m)
    | _ => none
  code := "datetime_type"

def bytes : FieldType where
  accept?
    | .bytes content => some (.bytes content)
    | _ => none
  code := "bytes_type"

end FieldType

namespace Field

/-- The datum as the field takes it. -/
def check (field : Field) (d : Datum) : Except DataFault Datum :=
  match field.optional, d with
  | true, .null => .ok .null
  | _, d =>
      match field.type.accept? d with
      | some accepted => .ok accepted
      | none => .error (.wrongType field.type.code)

/-- The value of the field, looked up by key. A fault names the key that was used, or the storage
key when nothing was found. -/
def read (field : Field) (lookup : String → Option Datum) : Except (String × DataFault) Datum :=
  let checked (key : String) (d : Datum) := (field.check d).mapError fun fault => (key, fault)
  match lookup field.storageKey with
  | some d => checked field.storageKey d
  | none =>
      match lookup field.name with
      | some d => checked field.name d
      | none =>
          match field.fallback with
          | some d => .ok d
          | none => .error (field.storageKey, .missing)

/-- The faults of all fields, in order. -/
def faults (fields : List Field) (lookup : String → Option Datum) : List (String × DataFault) :=
  fields.filterMap fun field =>
    match field.read lookup with
    | .error fault => some fault
    | .ok _ => none

/-- The values of all fields that have one, in order. -/
def readings (fields : List Field) (lookup : String → Option Datum) : List (String × Datum) :=
  fields.filterMap fun field =>
    match field.read lookup with
    | .error _ => none
    | .ok d => some (field.name, d)

/-- The values of all fields, where none is at fault. -/
def readAll (fields : List Field) (lookup : String → Option Datum) : Reading :=
  match faults fields lookup with
  | [] => .ok (readings fields lookup)
  | faults => .error faults

end Field

end DerivedQuery
