import DerivedQuery.Dictionary
import DerivedQuery.Parameter
import DerivedQuery.Text.Quoted

/-!
# Arguments

The arguments of a call are given to the parameters by position first and by name then. What is left
over goes to the parameters that take any number of arguments, where there are such. Every parameter
without an argument has to be optional.
-/

set_option autoImplicit false

namespace DerivedQuery

/-- What is wrong with the arguments of a call. -/
inductive ArgumentFault where
  /-- A parameter is given twice. -/
  | multipleValues (parameter : String)
  /-- Parameters that are given by position only are given by name. -/
  | positionalOnly (parameters : List String)
  /-- No parameter has the name. -/
  | unexpectedKeyword (keyword : String)
  /-- More arguments are given by position than from `least` to `most`, besides some that are given
  by name only. -/
  | tooMany (least most given keywordOnly : Nat)
  /-- Parameters are not given. -/
  | missing (keywordOnly : Bool) (parameters : List String)
  deriving DecidableEq, Repr

namespace ArgumentFault

/-- An ending for everything but one. -/
def ending (count : Nat) : String := if count = 1 then "" else "s"

/-- Some names in a message. -/
def listed : List String → String
  | [] => ""
  | [name] => Text.quoted name
  | [first, second] => Text.quoted first ++ " and " ++ Text.quoted second
  | names =>
      ", ".intercalate (names.dropLast.map Text.quoted) ++ ", and " ++
        Text.quoted (names.getLastD "")

/-- The message for a fault, behind the name of what is called. -/
def message : ArgumentFault → String
  | .multipleValues parameter => "got multiple values for argument " ++ Text.quoted parameter
  | .positionalOnly parameters =>
      "got some positional-only arguments passed as keyword arguments: '" ++
        ", ".intercalate parameters ++ "'"
  | .unexpectedKeyword keyword => "got an unexpected keyword argument " ++ Text.quoted keyword
  | .tooMany least most given keywordOnly =>
      let range :=
        if least < most then "from " ++ toString least ++ " to " ++ toString most
        else toString most
      let few := least = most ∧ most = 1
      let besides :=
        if keywordOnly = 0 then ""
        else " positional argument" ++ ending given ++ " (and " ++ toString keywordOnly ++
          " keyword-only argument" ++ ending keywordOnly ++ ")"
      let verb := if given = 1 ∧ keywordOnly = 0 then " was" else " were"
      "takes " ++ range ++ " positional argument" ++ (if few then "" else "s") ++ " but " ++
        toString given ++ besides ++ verb ++ " given"
  | .missing keywordOnly parameters =>
      "missing " ++ toString parameters.length ++ " required " ++
        (if keywordOnly then "keyword-only" else "positional") ++ " argument" ++
        ending parameters.length ++ ": " ++ listed parameters

end ArgumentFault

/-- The arguments of a call by the parameters that took them. -/
structure TakenArguments (α : Type) where
  /-- What single parameters took. -/
  values : List (String × α)
  /-- What is left over of the arguments given by position. -/
  rest : List α
  /-- What is left over of the arguments given by name. -/
  others : List (String × α)

namespace TakenArguments

variable {α : Type}

/-- Gives an argument to a parameter by name. All names that the call uses are `keywords`. -/
def takeKeyword (parameters : List Parameter) (keywords : List String) (taken : TakenArguments α)
    (keyword : String) (value : α) : Except ArgumentFault (TakenArguments α) :=
  let named := fun parameter : Parameter => parameter.takesName && parameter.name == keyword
  let misnamed := parameters.filter fun parameter =>
    parameter.kind = .positionalOnly && keywords.contains parameter.name
  if parameters.any named then
    if Dictionary.has taken.values keyword then .error (.multipleValues keyword)
    else .ok { taken with values := taken.values ++ [(keyword, value)] }
  else if parameters.any fun parameter => parameter.kind = .keywordVariadic then
    .ok { taken with others := taken.others ++ [(keyword, value)] }
  else if misnamed.isEmpty then .error (.unexpectedKeyword keyword)
  else .error (.positionalOnly (misnamed.map Parameter.name))

/-- Gives arguments to parameters by name, one after the other. -/
def takeKeywords (parameters : List Parameter) (keywords : List String) (taken : TakenArguments α) :
    List (String × α) → Except ArgumentFault (TakenArguments α)
  | [] => .ok taken
  | (keyword, value) :: rest => do
      let more ← takeKeyword parameters keywords taken keyword value
      takeKeywords parameters keywords more rest

/-- The names of the parameters that neither took an argument nor are optional. -/
def missing (taken : TakenArguments α) (parameters : List Parameter) : List String :=
  (parameters.filter fun parameter =>
    !parameter.isOptional && !Dictionary.has taken.values parameter.name).map Parameter.name

/-- Gives the arguments of a call to the parameters. -/
def take (parameters : List Parameter) (arguments : List α) (keywords : List (String × α)) :
    Except ArgumentFault (TakenArguments α) := do
  let positional := parameters.filter Parameter.takesPosition
  let keywordOnly := parameters.filter fun parameter => parameter.kind = .keywordOnly
  let count := positional.length
  let byPosition : TakenArguments α :=
    ⟨(positional.map Parameter.name).zip arguments, arguments.drop count, []⟩
  let taken ← takeKeywords parameters (keywords.map Prod.fst) byPosition keywords
  let isVariadic := parameters.any fun parameter => parameter.kind = .variadic
  if count < arguments.length && !isVariadic then
    let least := (positional.filter fun parameter => !parameter.isOptional).length
    let given := keywordOnly.countP fun parameter => Dictionary.has taken.values parameter.name
    .error (.tooMany least count arguments.length given)
  else if taken.missing positional != [] then .error (.missing false (taken.missing positional))
  else if taken.missing keywordOnly != [] then .error (.missing true (taken.missing keywordOnly))
  else .ok taken

end TakenArguments

end DerivedQuery
