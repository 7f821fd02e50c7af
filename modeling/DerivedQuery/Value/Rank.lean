import DerivedQuery.Value.Comparison

/-!
# Sort order of values

For sorting, every type has a rank, which integers and doubles share. Values of different ranks are
ordered by rank, scalars of one rank by their own order; nulls, entities and lists are all alike.
-/

set_option autoImplicit false

namespace DerivedQuery

namespace Value

/-- The rank of a type among all types. -/
def rank : Value → Nat
  | .null => 0
  | .long _ | .double _ => 1
  | .timestamp _ => 2
  | .boolean _ => 3
  | .blob _ => 4
  | .string _ => 5
  | .entity _ => 6
  | .list _ => 7

/-- What a value is sorted by. -/
structure Rank where
  rank : Nat
  scalar : Option Scalar
  deriving DecidableEq, Repr

/-- The sort key of a value. -/
def sortRank (value : Value) : Rank := ⟨value.rank, value.scalar?⟩

namespace Rank

/-- Does the first key come strictly before the second? -/
def less (a b : Rank) : Bool :=
  if a.rank < b.rank then true
  else if b.rank < a.rank then false
  else
    match a.scalar, b.scalar with
    | some x, some y => x.compare? y == some .lt
    | _, _ => false

end Rank

end Value

end DerivedQuery
