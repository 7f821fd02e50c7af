import DerivedQuery.Expression.Reference
import DerivedQuery.Meaning.Known

/-!
# Types with arguments

Classes and forms take arguments in square brackets, and types may be alternatives. Among the
arguments of a form a text stands for the expression that it spells, and has to be one. Equal
alternatives count once.
-/

set_option autoImplicit false

namespace DerivedQuery.Meaning

/-- The type of nothing at all. -/
def nullClass : Meaning := .builtinClass "NoneType"

/-- What stands for a type: nothing at all stands for its own type. -/
def asType : Meaning → Meaning
  | .datum .null => nullClass
  | meaning => meaning

/-- A type among the arguments of a form, or the meaning of a text. A text must be an expression. -/
def check (expectation : String) : Meaning → Except Failure Meaning
  | .form "Optional" => .error (.expression (.bareForm "typing.Optional"))
  | .tuple items =>
      .error (.expression (.sequence expectation (Meaning.tuple items).written))
  | .datum (.text content) => do
      discard ((Expression.ofReference content).mapError Failure.expression)
      .ok (text content)
  | meaning => .ok meaning.asType

/-- The arguments between brackets: a sequence stands for its items. -/
def arguments : Meaning → List Meaning
  | .tuple items => items
  | meaning => [meaning]

/-- The members that something has as an alternative. -/
def members : Meaning → List Meaning
  | .either _ members => members
  | meaning => [meaning]

/-- The first of equal meanings alone, which need not be keys. -/
def different : List Meaning → List Meaning
  | [] => []
  | item :: rest => item :: (different rest).filter fun other => !item.same other

/-- Alternatives as one meaning: those within an alternative are alternatives themselves, equal ones
count once, and a single one stands for itself. The alternatives of a form must not change. -/
def ofMembers (generic : Bool) (alternatives : List Meaning) : Except Failure Meaning := do
  let all := alternatives.flatMap members
  let found ← if generic then distinct all else .ok (different all)
  match found with
  | [item] => .ok item
  | items => .ok (.either generic items)

/-- A type with arguments in square brackets. -/
def apply (base argument : Meaning) : Except Failure Meaning :=
  let fail (fault : ExpressionFault) : Except Failure Meaning := .error (.expression fault)
  match base with
  | .unknown => .ok .unknown
  | .builtinClass name =>
      if genericClassNames.contains name then .ok (.applied false name argument.arguments)
      else fail (.takesNoArguments ("type " ++ Text.quoted name))
  | .model described => do
      argument.checkKey
      fail (.modelArguments described.qualifiedName)
  | .form "Any" => fail (.takesNoArguments "type 'Any'")
  | .form "Optional" => do
      let checked ← check "typing.Optional requires a single type." argument
      ofMembers true [checked, nullClass]
  | .form name => do
      let checked ← argument.arguments.mapM (check "Parameters to generic types must be types.")
      match checked with
      | [item] => .ok (.applied true name [item])
      | items => fail (.argumentCount ("typing." ++ name) items.length)
  | .applied _ _ _ | .either _ _ | .spread _ => fail (.notGeneric base.written)
  | _ => fail (.takesNoArguments (Text.quoted base.typeName ++ " object"))

/-- May something be an alternative? Nothing at all may, but only beside something else. -/
def isAlternative : Meaning → Bool
  | .datum .null | .model _ | .builtinClass _ | .form _ | .applied _ _ _ | .either _ _
  | .spread _ => true
  | _ => false

/-- Does something come from a form? Then it may be an alternative of anything but a sequence. -/
def isOfForm : Meaning → Bool
  | .form name => name != "Any"
  | .applied generic _ _ | .either generic _ => generic
  | .spread (.applied generic _ _) => generic
  | .spread _ => true
  | _ => false

/-- Two types as alternatives. -/
def alternatives (left right : Meaning) : Except Failure Meaning :=
  let expectation := "Union[arg, ...]: each arg must be a type."
  if left.isOfForm || right.isOfForm then do
    let first ← check expectation left
    let second ← check expectation right
    ofMembers true [first, second]
  else
    match left, right with
    | .datum .null, .datum .null =>
        .error (.expression (.operands "|" left.typeName right.typeName))
    | _, _ =>
        if left.isAlternative && right.isAlternative then
          ofMembers false [left.asType, right.asType]
        else .error (.expression (.operands "|" left.typeName right.typeName))

end DerivedQuery.Meaning
