import DerivedQuery.Text.Base64
import DerivedQuery.Value
import DerivedQuery.Time.Iso
import DerivedQuery.Datum

/-!
# REST form of values

Each store value has a document whose single key names its type. Integers are written as decimal
texts, byte strings in base64 and timestamps as texts of date and time.
-/

set_option autoImplicit false

namespace DerivedQuery

mutual

/-- The document of a store value. -/
def Value.rest : Value → Datum
  | .null => .object [("nullValue", .null)]
  | .boolean b => .object [("booleanValue", .boolean b)]
  | .long n => .object [("integerValue", .text (toString n))]
  | .double d => .object [("doubleValue", .double d)]
  | .string s => .object [("stringValue", .text s)]
  | .blob content => .object [("blobValue", .text (Text.base64 content))]
  | .timestamp t => .object [("timestampValue", .text ((Moment.ofUtc t).text "T"))]
  | .entity properties =>
      .object [("entityValue", .object [("properties", .dict (restProperties properties))])]
  | .list elements =>
      .object [("arrayValue", .object [("values", .list (restElements elements))])]

/-- The documents of the elements of a list. -/
def restElements : List Value → List Datum
  | [] => []
  | element :: others => Value.rest element :: restElements others

/-- The documents of the properties of an entity under their names. -/
def restProperties : List (String × Value) → List (Datum × Datum)
  | [] => []
  | (name, value) :: others => (.text name, Value.rest value) :: restProperties others

end

end DerivedQuery
