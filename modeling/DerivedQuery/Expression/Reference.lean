import DerivedQuery.Expression.Fault
import DerivedQuery.Expression.Reader

/-!
# References

A text among the arguments of a type stands for the expression that it spells. One that starts with
a star stands for the only element of a sequence.
-/

set_option autoImplicit false

namespace DerivedQuery.Expression

/-- The text of the expression that a reference stands for. -/
def referenceText (text : String) : String :=
  if text.toList.head? = some '*' then "(" ++ text ++ ",)[0]" else text

/-- The expression that a reference stands for. -/
def ofReference (text : String) : Except ExpressionFault Expression :=
  if text.isEmpty then .error .empty
  else if text.toList.contains '\x00' then .error .nullCharacter
  else
    match ofWholeText? (referenceText text) with
    | some expression => .ok expression
    | none => .error (.unreadable text)

end DerivedQuery.Expression
