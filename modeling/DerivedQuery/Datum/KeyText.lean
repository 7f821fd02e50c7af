import DerivedQuery.Datum.Written
import DerivedQuery.Failure

/-!
# Texts of keys

The name that a key of a dictionary stands for is its text. There is none where a whole number with
too many digits would have to be written, be it the key itself or a part of it.
-/

set_option autoImplicit false

namespace DerivedQuery

mutual

/-- The whole numbers that the text of a store value shows. -/
def Value.shownIntegers : Value → List Int
  | .long n => [n]
  | .entity properties => shownByProperties properties
  | .list elements => shownByElements elements
  | _ => []

/-- The whole numbers that the texts of the elements of a list show. -/
def shownByElements : List Value → List Int
  | [] => []
  | element :: rest => Value.shownIntegers element ++ shownByElements rest

/-- The whole numbers that the texts of the properties of an entity show. -/
def shownByProperties : List (String × Value) → List Int
  | [] => []
  | (_, value) :: rest => Value.shownIntegers value ++ shownByProperties rest

end

/-- The whole numbers that the text of an object shows. -/
def ForeignObject.shownIntegers : ForeignObject → List Int
  | .range stop => [stop]
  | .numbers _ members => members
  | _ => []

namespace Datum

mutual

/-- The whole numbers that the text of a datum shows. -/
def shownIntegers : Datum → List Int
  | .integer n => [n]
  | .dict entries => shownByEntries entries
  | .list items | .tuple items => shownByItems items
  | .wrapped value => value.shownIntegers
  | .record _ contents => shownByFields contents
  | .foreign object => object.shownIntegers
  | _ => []

/-- The whole numbers that the texts of the elements of a sequence show. -/
def shownByItems : List Datum → List Int
  | [] => []
  | item :: rest => shownIntegers item ++ shownByItems rest

/-- The whole numbers that the texts of the entries of a dictionary show. -/
def shownByEntries : List (Datum × Datum) → List Int
  | [] => []
  | (key, value) :: rest => shownIntegers key ++ shownIntegers value ++ shownByEntries rest

/-- The whole numbers that the texts of the fields of an object show. -/
def shownByFields : List (String × Datum) → List Int
  | [] => []
  | (_, value) :: rest => shownIntegers value ++ shownByFields rest

end

/-- The name that a key stands for. -/
def keyText (key : Datum) : Except Failure String :=
  if key.shownIntegers.any Numeral.isTooLong then .error .unwrittenInteger else .ok key.plainText

end Datum

end DerivedQuery
