import DerivedQuery.Lexicographic
import DerivedQuery.Value.Equality

/-!
# Comparing values

Numbers, timestamps, truth values, byte strings and texts are scalars, each family with an order of
its own; values of different families are not comparable, and neither is a NaN with any number. A
condition holds of a stored list when it holds of one of its elements at any depth.
-/

set_option autoImplicit false

namespace DerivedQuery

/-- A value of a family that has an order. -/
inductive Scalar where
  | number (quantity : Option Quantity)
  | timestamp (t : DateTime)
  | boolean (b : Bool)
  | blob (bytes : List UInt8)
  | string (s : String)
  deriving DecidableEq, Repr

namespace Scalar

/-- The order of two scalars of one family; `none` when they are not comparable. -/
def compare? : Scalar → Scalar → Option Ordering
  | .number (some a), .number (some b) => some (a.compare b)
  | .timestamp a, .timestamp b => some (a.compare b)
  | .boolean a, .boolean b => some (compareLists [a.toNat] [b.toNat])
  | .blob a, .blob b => some (compareBytes a b)
  | .string a, .string b => some (compareTexts a b)
  | _, _ => none

end Scalar

/-- The conditions of filters. -/
inductive Comparison where
  | equal
  | greater
  | greaterOrEqual
  | less
  | lessOrEqual
  deriving DecidableEq, Repr

namespace Comparison

/-- The name of a condition in capitals. -/
def name : Comparison → String
  | .equal => "EQUAL"
  | .greater => "GREATER_THAN"
  | .greaterOrEqual => "GREATER_THAN_OR_EQUAL"
  | .less => "LESS_THAN"
  | .lessOrEqual => "LESS_THAN_OR_EQUAL"

/-- Does the condition hold of two scalars in this order? -/
def holds : Comparison → Ordering → Bool
  | .equal, .eq => true
  | .greater, .gt => true
  | .greaterOrEqual, .gt | .greaterOrEqual, .eq => true
  | .less, .lt => true
  | .lessOrEqual, .lt | .lessOrEqual, .eq => true
  | _, _ => false

end Comparison

namespace Value

/-- The scalar that a value is, if it is one. -/
def scalar? : Value → Option Scalar
  | .long n => some (.number (some (Quantity.ofInt n)))
  | .double d => some (.number d.quantity?)
  | .timestamp t => some (.timestamp t)
  | .boolean b => some (.boolean b)
  | .blob content => some (.blob content)
  | .string s => some (.string s)
  | _ => none

/-- Integers and doubles are one family; every other type is a family of its own. -/
def sameFamily (a b : Value) : Bool :=
  match a.type, b.type with
  | .long, .double | .double, .long => true
  | s, t => s == t

/-- Does a condition hold between a stored value that is no list and a target? -/
def scalarMatches (stored : Value) (comparison : Comparison) (target : Value) : Bool :=
  match comparison with
  | .equal => sameFamily stored target && plainEqual stored target
  | _ =>
      match stored.scalar?, target.scalar? with
      | some a, some b => ((a.compare? b).map comparison.holds).getD false
      | _, _ => false

mutual

/-- Does a condition hold between a stored value and a target? -/
def satisfies : Value → Comparison → Value → Bool
  | .list elements, comparison, target => anySatisfies elements comparison target
  | stored, comparison, target => scalarMatches stored comparison target

/-- Does a condition hold between one of the elements and a target? -/
def anySatisfies : List Value → Comparison → Value → Bool
  | [], _, _ => false
  | element :: rest, comparison, target =>
      element.satisfies comparison target || anySatisfies rest comparison target

end

end Value

end DerivedQuery
