import DerivedQuery.Text.Quoted

/-!
# Faults of expressions

What can be wrong with an expression: that it cannot be read, or that its operands do not fit what
is done with them. Types are named as messages name them.
-/

set_option autoImplicit false

namespace DerivedQuery

/-- What is wrong with an expression. -/
inductive ExpressionFault where
  /-- A text is no expression. -/
  | unreadable (text : String)
  /-- A text that should be an expression is empty. -/
  | empty
  /-- A text that should be an expression has a null character. -/
  | nullCharacter
  /-- A name is not known. -/
  | unknownName (name : String)
  /-- Something takes no arguments in square brackets; it is described by a phrase. -/
  | takesNoArguments (phrase : String)
  /-- A model takes no arguments in square brackets. It is given by its name within its module. -/
  | modelArguments (model : String)
  /-- Something with arguments takes no more of them. -/
  | notGeneric (written : String)
  /-- A number of arguments in square brackets does not fit. -/
  | argumentCount (written : String) (actual : Nat)
  /-- A form that needs arguments stands alone. -/
  | bareForm (written : String)
  /-- A sequence stands for a type. -/
  | sequence (expectation written : String)
  /-- An index is of a wrong type; what is wanted is a phrase. -/
  | wrongIndex (phrase actual : String)
  /-- An index lies outside of a sequence. -/
  | outOfRange (phrase : String)
  /-- A place of a text asks for an argument that is not there. -/
  | noArgument (number : Nat)
  /-- The last element of an empty list is asked for. -/
  | emptyPop
  /-- An index is larger than any position. -/
  | largeIndex
  /-- A dictionary does not have a key. -/
  | missingKey (written : String)
  /-- A sign stands before something that is no number. -/
  | operand (mark typeName : String)
  /-- An operation is not known for two types. -/
  | operands (mark left right : String)
  /-- Two types have no order. -/
  | order (mark left right : String)
  /-- The quotient of whole numbers is larger than any double. -/
  | largeQuotient
  /-- A number is divided by zero. -/
  | zeroDivision (phrase : String)
  /-- An object of a type is used for what objects of that type cannot do. -/
  | misuse (message : String)
  /-- An object has a type that fits and a value that does not. -/
  | badValue (message : String)
  /-- Functions call each other without end. -/
  | tooDeep
  deriving DecidableEq, Repr

namespace ExpressionFault

/-- The message for a fault. -/
def message : ExpressionFault → String
  | .unreadable text => "Forward reference must be an expression -- got " ++ Text.quoted text
  | .empty => "string index out of range"
  | .nullCharacter => "source code string cannot contain null bytes"
  | .unknownName name => "name " ++ Text.quoted name ++ " is not defined"
  | .takesNoArguments phrase => phrase ++ " is not subscriptable"
  | .modelArguments model =>
      "<class " ++ Text.quoted model ++
        "> cannot be parametrized because it does not inherit from typing.Generic"
  | .notGeneric written => written ++ " is not a generic class"
  | .argumentCount written actual =>
      (if actual = 0 then "Too few" else "Too many") ++ " arguments for " ++ written ++
        "; actual " ++ toString actual ++ ", expected 1"
  | .bareForm written => "Plain " ++ written ++ " is not valid as type argument"
  | .sequence expectation written =>
      expectation ++ " Got " ++ String.ofList (written.toList.take 100) ++ "."
  | .wrongIndex phrase actual => phrase ++ ", not " ++ actual
  | .outOfRange phrase => phrase ++ " out of range"
  | .noArgument number =>
      "Replacement index " ++ toString number ++ " out of range for positional args tuple"
  | .emptyPop => "pop from empty list"
  | .largeIndex => "cannot fit 'int' into an index-sized integer"
  | .missingKey written => written
  | .operand mark typeName => "bad operand type for " ++ mark ++ ": " ++ Text.quoted typeName
  | .operands mark left right =>
      "unsupported operand type(s) for " ++ mark ++ ": " ++ Text.quoted left ++ " and " ++
        Text.quoted right
  | .order mark left right =>
      "'" ++ mark ++ "' not supported between instances of " ++ Text.quoted left ++ " and " ++
        Text.quoted right
  | .largeQuotient => "integer division result too large for a float"
  | .zeroDivision phrase => phrase
  | .misuse message => message
  | .badValue message => message
  | .tooDeep => "maximum recursion depth exceeded"

end ExpressionFault

end DerivedQuery
