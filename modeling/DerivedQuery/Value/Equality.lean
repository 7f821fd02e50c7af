import DerivedQuery.Value
import DerivedQuery.Dictionary

/-!
# Equality of values

There are two notions. `Value.same` compares types as well as contents at every depth.
`Value.plainEqual` compares the plain data behind two values: there, integers, doubles and truth
values are equal when they are the same quantity, and entities are equal as unordered maps. A NaN
equals nothing.
-/

set_option autoImplicit false

namespace DerivedQuery

namespace Double

/-- Equality of doubles as numbers: the two zeros are equal and a NaN differs from itself. -/
def numericEqual (a b : Double) : Bool :=
  match a.quantity?, b.quantity? with
  | some x, some y => x == y
  | _, _ => false

end Double

namespace Value

mutual

/-- Equality of type and content. -/
def same : Value → Value → Bool
  | .null, .null => true
  | .boolean a, .boolean b => a == b
  | .long a, .long b => a == b
  | .double a, .double b => a.numericEqual b
  | .string a, .string b => a == b
  | .blob a, .blob b => a == b
  | .timestamp a, .timestamp b => a == b
  | .entity a, .entity b => a.length == b.length && sameProperties a b
  | .list a, .list b => sameElements a b
  | _, _ => false

/-- Equality of lists, element by element. -/
def sameElements : List Value → List Value → Bool
  | [], [] => true
  | a :: restA, b :: restB => same a b && sameElements restA restB
  | _, _ => false

/-- Is each of the first properties found with an equal value among the second? -/
def sameProperties : List (String × Value) → List (String × Value) → Bool
  | [], _ => true
  | (name, a) :: restA, b =>
      (match Dictionary.get? b name with
        | some value => same a value
        | none => false) && sameProperties restA b

end

/-- The quantity behind a number or a truth value. -/
def quantity? : Value → Option Quantity
  | .boolean b => some (Quantity.ofInt (if b then 1 else 0))
  | .long n => some (Quantity.ofInt n)
  | .double d => d.quantity?
  | _ => none

mutual

/-- Equality of the plain data behind two values. -/
def plainEqual : Value → Value → Bool
  | .null, .null => true
  | .string a, .string b => a == b
  | .blob a, .blob b => a == b
  | .timestamp a, .timestamp b => a == b
  | .entity a, .entity b => a.length == b.length && plainEqualProperties a b
  | .list a, .list b => plainEqualElements a b
  | a, b =>
      match a.quantity?, b.quantity? with
      | some x, some y => x == y
      | _, _ => false

/-- Equality of the plain data behind two lists, element by element. -/
def plainEqualElements : List Value → List Value → Bool
  | [], [] => true
  | a :: restA, b :: restB => plainEqual a b && plainEqualElements restA restB
  | _, _ => false

/-- Is each of the first properties found with equal plain data among the second? -/
def plainEqualProperties : List (String × Value) → List (String × Value) → Bool
  | [], _ => true
  | (name, a) :: restA, b =>
      (match Dictionary.get? b name with
        | some value => plainEqual a value
        | none => false) && plainEqualProperties restA b

end

end Value

end DerivedQuery
