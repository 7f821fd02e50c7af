/-!
# Parameters

A parameter of a method or a function has a name and a way to be given: by position, by name, or
both; or it takes all the arguments that no other parameter takes.
-/

set_option autoImplicit false

namespace DerivedQuery

/-- How a parameter may be given. -/
inductive ParameterKind where
  | positionalOnly
  | positional
  | variadic
  | keywordOnly
  | keywordVariadic
  deriving DecidableEq, Repr

/-- A parameter of a method or a function. -/
structure Parameter where
  name : String
  kind : ParameterKind
  /-- Something stands in for an argument that is not given. -/
  isOptional : Bool := false
  deriving DecidableEq, Repr

namespace Parameter

/-- May the parameter be given by its position? -/
def takesPosition (parameter : Parameter) : Bool :=
  parameter.kind = .positionalOnly || parameter.kind = .positional

/-- May the parameter be given by its name? -/
def takesName (parameter : Parameter) : Bool :=
  parameter.kind = .positional || parameter.kind = .keywordOnly

end Parameter

end DerivedQuery
