import DerivedQuery.Datum.Key
import DerivedQuery.Value.Wrap

/-!
# Elements of data

Sequences have their items as elements, texts their characters, byte strings their bytes,
dictionaries their keys, and store values the pairs of name and value of their two parts. A
dictionary is made of data whose elements each have two elements of their own.
-/

set_option autoImplicit false

namespace DerivedQuery

/-- The content of a store value; what it holds stays typed. -/
def Value.content : Value → Datum
  | .entity properties => .dict (properties.map fun entry => (.text entry.1, .wrapped entry.2))
  | .list elements => .tuple (elements.map .wrapped)
  | value => value.plain

namespace Datum

/-- The bytes of a byte string as numbers. -/
def byteElements (content : List UInt8) : List Datum :=
  content.map fun byte => .integer byte.toNat

/-- The elements of a datum, where it has any. -/
def elements? : Datum → Option (List Datum)
  | .text s => some (s.toList.map fun c => .text c.toString)
  | .bytes content | .buffer content => some (byteElements content)
  | .dict entries => some (entries.map Prod.fst)
  | .list items | .tuple items => some items
  | .wrapped value =>
      some [.tuple [.text "type", .text value.type.name], .tuple [.text "value", value.content]]
  | .foreign (.range stop) => some ((List.range stop).map fun n : Nat => .integer n)
  | .foreign (.numbers _ members) => some (members.map .integer)
  | _ => none

/-- The elements of a datum. -/
def elements (d : Datum) : Except Failure (List Datum) :=
  match d.elements? with
  | some items => .ok items
  | none => .error (.notIterable d.qualifiedTypeName)

/-- Adds the pairs among some elements to the entries of a dictionary; `position` is the number of
elements before them. -/
def addPairs (entries : List (Datum × Datum)) (position : Nat) :
    List Datum → Except Failure (List (Datum × Datum))
  | [] => .ok entries
  | item :: rest =>
      match item.elements? with
      | none => .error (.noPair position)
      | some [key, value] => do
          let added ← (addEntry entries key value).mapError Failure.unhashable
          addPairs added (position + 1) rest
      | some parts => .error (.pairLength position parts.length)

/-- The dictionary that a datum describes. -/
def toDictionary : Datum → Except Failure Datum
  | .dict entries => .ok (.dict entries)
  | d => do
      let items ← d.elements
      (addPairs [] 0 items).map .dict

end Datum

end DerivedQuery
