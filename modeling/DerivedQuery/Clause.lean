import DerivedQuery.Clause.Operator
import DerivedQuery.Name.Property

/-!
# Clauses

A clause is one condition of a method name: a property and the operator that its last words name.
-/

set_option autoImplicit false

namespace DerivedQuery

/-- A property with an operator. -/
structure Clause where
  property : String
  operator : Operator
  deriving DecidableEq, Repr

namespace Clause

/-- The clause that words spell; `none` when no character is left for the property. -/
def ofWords? (style : NameStyle) (words : List Word) : Option Clause :=
  let named := Operator.ofWords words
  let property := joinProperty style (words.take (words.length - named.2))
  if property = "" then none else some ⟨property, named.1⟩

/-- The number of arguments that the clause takes. -/
def argumentCount (clause : Clause) : Nat := clause.operator.argumentCount

/-- The property followed by the name of the operator. -/
def text (clause : Clause) : String := clause.property ++ " " ++ clause.operator.name

end Clause

end DerivedQuery
