import DerivedQuery.Datum
import DerivedQuery.Dictionary
import DerivedQuery.Value.Equality

/-!
# Dictionary keys

Every datum that cannot change may be a key. Two data are one key when they are equal: numbers,
decimals and truth values when they are the same quantity, tuples when their elements are, store
values when their types and contents are. A NaN is no key but its own, so that two of them never
meet.
-/

set_option autoImplicit false

namespace DerivedQuery

/-- Is a decimal the given quantity? -/
def Decimal.isQuantity (d : Decimal) : Quantity → Bool
  | .units count =>
      let up := Nat.pow 10 d.scale.toNat
      let down := Nat.pow 10 (-d.scale).toNat
      count * (down : Nat) == ((d.digits * up * Nat.pow 2 1074 : Nat) : Int)
  | _ => false

mutual

/-- The name of the type that keeps a store value from being a key, if there is one. -/
def Value.changeable? : Value → Option String
  | .entity _ => some "dict"
  | .list elements => changeableElement? elements
  | _ => none

/-- The name of the type that keeps a list of store values from being a key, if there is one. -/
def changeableElement? : List Value → Option String
  | [] => none
  | element :: rest =>
      match Value.changeable? element with
      | some name => some name
      | none => changeableElement? rest

end

namespace Datum

mutual

/-- The name of the type that keeps a datum from being a key, if there is one. -/
def changeable? : Datum → Option String
  | .dict _ => some "dict"
  | .list _ => some "list"
  | .buffer _ => some "bytearray"
  | .record className _ => some className
  | .foreign (.numbers false _) => some "set"
  | .tuple items => changeableItem? items
  | .wrapped value => value.changeable?
  | _ => none

/-- The name of the type that keeps a tuple from being a key, if there is one. -/
def changeableItem? : List Datum → Option String
  | [] => none
  | item :: rest =>
      match changeable? item with
      | some name => some name
      | none => changeableItem? rest

end

mutual

/-- Do two data name the same entry of a dictionary? -/
def sameKey : Datum → Datum → Bool
  | .null, .null => true
  | .text a, .text b => a == b
  | .bytes a, .bytes b => a == b
  | .tuple a, .tuple b => sameKeys a b
  | .moment a, .moment b => a.offset.isSome == b.offset.isSome && a.instant == b.instant
  | .wrapped a, .wrapped b => a.same b
  | .foreign a, .foreign b => a == b
  | .foreign (.decimal a), b => (b.quantity?.map a.isQuantity).getD false
  | a, .foreign (.decimal b) => (a.quantity?.map b.isQuantity).getD false
  | a, b =>
      match a.quantity?, b.quantity? with
      | some x, some y => x == y
      | _, _ => false

/-- Do the elements of two tuples agree one by one? -/
def sameKeys : List Datum → List Datum → Bool
  | [], [] => true
  | a :: restA, b :: restB => sameKey a b && sameKeys restA restB
  | _, _ => false

end

/-- Adds an entry to those of a dictionary: a key that comes again keeps its place and gets the new
value. A datum that is no key is refused by the name of the type that keeps it from being one. -/
def addEntry (entries : List (Datum × Datum)) (key value : Datum) :
    Except String (List (Datum × Datum)) :=
  match key.changeable? with
  | some typeName => .error typeName
  | none => .ok (Dictionary.putBy sameKey key value entries)

/-- The value under a text key. -/
def valueUnder? (entries : List (Datum × Datum)) (key : String) : Option Datum :=
  (entries.find? fun entry => entry.1.sameKey (.text key)).map Prod.snd

end Datum

end DerivedQuery
