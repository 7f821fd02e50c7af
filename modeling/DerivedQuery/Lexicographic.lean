/-!
# Lexicographic order

Two lists of numbers are compared at the first place where they differ; a list that ends there comes
first. Texts are compared by the code points of their characters and byte strings by their bytes.
-/

set_option autoImplicit false

namespace DerivedQuery

/-- The order of two lists of numbers. -/
def compareLists : List Nat → List Nat → Ordering
  | [], [] => .eq
  | [], _ :: _ => .lt
  | _ :: _, [] => .gt
  | a :: restA, b :: restB =>
      if a < b then .lt else if b < a then .gt else compareLists restA restB

/-- The order of two texts. -/
def compareTexts (a b : String) : Ordering :=
  compareLists (a.toList.map Char.toNat) (b.toList.map Char.toNat)

/-- The order of two byte strings. -/
def compareBytes (a b : List UInt8) : Ordering :=
  compareLists (a.map UInt8.toNat) (b.map UInt8.toNat)

end DerivedQuery
