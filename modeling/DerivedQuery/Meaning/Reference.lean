import DerivedQuery.Meaning.Evaluation

/-!
# Resolving references

A text that stands for an expression is replaced by what the expression means, and so are the texts
among the arguments and alternatives of a type, spread or not. A text that stands for itself,
directly or not, is left as it is.
-/

set_option autoImplicit false

namespace DerivedQuery.Meaning

/-- Checks that a meaning that is a text is an expression. -/
def checkReference : Meaning → Except Failure Unit
  | .datum (.text content) =>
      discard ((Expression.ofReference content).mapError Failure.expression)
  | _ => .ok ()

mutual

/-- A meaning with the texts in it resolved, where `resolveText` resolves a single text. All texts
among the arguments of a class must be expressions before any of them is resolved. -/
def resolveWith (resolveText : String → Evaluation Meaning) : Meaning → Evaluation Meaning
  | .datum (.text content) => resolveText content
  | .applied generic name arguments => do
      (arguments.forM checkReference : Except Failure Unit)
      let resolved ← resolveAllWith resolveText arguments
      pure (.applied generic name resolved)
  | .either generic members => do
      let resolved ← resolveAllWith resolveText members
      ofMembers generic resolved
  | .spread item => do
      let resolved ← resolveWith resolveText item
      pure (.spread resolved)
  | meaning => pure meaning

/-- Meanings with the texts in them resolved, in order. -/
def resolveAllWith (resolveText : String → Evaluation Meaning) :
    List Meaning → Evaluation (List Meaning)
  | [] => pure []
  | item :: rest => do
      let resolved ← resolveWith resolveText item
      let others ← resolveAllWith resolveText rest
      pure (resolved :: others)

end

/-- What a text means, with the texts in it resolved. A text that is met while it is resolved itself
is left as it is. Texts stand for each other less than `fuel` deep. -/
def ofText : Nat → List String → String → Evaluation Meaning
  | 0, _, _ => Evaluation.fail .tooDeep
  | fuel + 1, around, content => do
      let expression ←
        ((Expression.ofReference content).mapError Failure.expression : Except Failure Expression)
      if around.contains content then pure (text content)
      else do
        let meaning ← ofExpression (Expression.depthBound content) expression
        let checked ← check "Forward references must evaluate to types." meaning
        resolveWith (ofText fuel (content :: around)) checked

end DerivedQuery.Meaning
