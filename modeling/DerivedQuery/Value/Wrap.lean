import DerivedQuery.Datum.KeyText

/-!
# Wrapping

Wrapping turns application data into typed store values. It walks through dictionaries, lists and
tuples in order and fails at the first datum that has no store type or, as a moment, lies outside
the calendar in UTC. The keys of a dictionary become texts, each before its value is wrapped, and
wrapping fails at a key that has no text; where two keys have the same text, the later value stays
in the earlier place. A store value inside the data is taken as it is.
-/

set_option autoImplicit false

namespace DerivedQuery

mutual

/-- The store value of a datum. -/
def Datum.wrap : Datum → Except Failure Value
  | .null => .ok .null
  | .boolean b => .ok (.boolean b)
  | .integer n => .ok (.long n)
  | .double d => .ok (.double d)
  | .text s => .ok (.string s)
  | .bytes content => .ok (.blob content)
  | .buffer content => .ok (.blob content)
  | .moment m =>
      match m.utc? with
      | some t => .ok (.timestamp t)
      | none => .error .momentOutOfRange
  | .dict entries => do
      let properties ← wrapEntries entries
      .ok (.entity (Dictionary.ofEntries properties))
  | .list items => do
      let elements ← wrapItems items
      .ok (.list elements)
  | .tuple items => do
      let elements ← wrapItems items
      .ok (.list elements)
  | .wrapped value => .ok value
  | .record className _ => .error (.unsupportedType className)
  | .foreign object => .error (.unsupportedType object.typeName)

/-- The store values of the elements of a sequence. -/
def wrapItems : List Datum → Except Failure (List Value)
  | [] => .ok []
  | item :: rest => do
      let value ← Datum.wrap item
      let values ← wrapItems rest
      .ok (value :: values)

/-- The named store values of the entries of a dictionary. -/
def wrapEntries : List (Datum × Datum) → Except Failure (List (String × Value))
  | [] => .ok []
  | (key, item) :: rest => do
      let name ← key.keyText
      let value ← Datum.wrap item
      let values ← wrapEntries rest
      .ok ((name, value) :: values)

end

mutual

/-- The plain datum of a store value. -/
def Value.plain : Value → Datum
  | .null => .null
  | .boolean b => .boolean b
  | .long n => .integer n
  | .double d => .double d
  | .string s => .text s
  | .blob content => .bytes content
  | .timestamp t => .moment (.ofUtc t)
  | .entity properties => .dict (plainProperties properties)
  | .list elements => .list (plainElements elements)

/-- The plain data of the elements of a list. -/
def plainElements : List Value → List Datum
  | [] => []
  | element :: rest => Value.plain element :: plainElements rest

/-- The plain entries of an entity. -/
def plainProperties : List (String × Value) → List (Datum × Datum)
  | [] => []
  | (name, value) :: rest => (.text name, Value.plain value) :: plainProperties rest

end

end DerivedQuery
