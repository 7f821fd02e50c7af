import DerivedQuery.Meaning.Reference

/-!
# Annotations

The annotations of a function are what its parameters and its result are said to be. A text among
them stands for an expression, which is read among the names of the module that the function is
from. A result that is a list of a model names the model of the results; every other annotation says
nothing, but has to be resolved all the same.
-/

set_option autoImplicit false

namespace DerivedQuery

namespace Annotation

/-- How many texts may stand for each other. -/
def longestChain : Nat := 1000

/-- What an annotation says, with the texts in it resolved. -/
def resolve (meaning : Meaning) : Evaluation Meaning :=
  meaning.resolveWith (Meaning.ofText longestChain [])

/-- What annotations say, one after the other, by the names of what is annotated. -/
def resolveAll : List (String × Meaning) → Evaluation (List (String × Meaning))
  | [] => pure []
  | (name, meaning) :: rest => do
      let resolved ← resolve meaning
      let others ← resolveAll rest
      pure ((name, resolved) :: others)

/-- The model whose list is meant. -/
def listModel? : Meaning → Option Model
  | .applied _ name (.model described :: _) =>
      if name = "list" ∨ name = "List" then some described else none
  | _ => none

/-- The model that resolved annotations name for the results. -/
def view? (annotations : List (String × Meaning)) : Option Model :=
  (Dictionary.get? annotations "return").bind listModel?

/-- What an expression says that is written as an annotation; a text that is no expression says
nothing. -/
def ofText (names : ModuleNames) (text : String) : Except Failure Meaning :=
  match Expression.ofText? text with
  | none => .ok .null
  | some expression =>
      (Meaning.ofExpression (Expression.depthBound text) expression).run' { globals := names }

end Annotation

end DerivedQuery
