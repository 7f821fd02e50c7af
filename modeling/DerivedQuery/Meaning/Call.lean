import DerivedQuery.Meaning.Class
import DerivedQuery.Meaning.Function
import DerivedQuery.Meaning.Method
import DerivedQuery.Model

/-!
# Calls

Classes make objects of data, models make entities of data given by name, and functions and methods
yield what they tell. Forms make nothing.
-/

set_option autoImplicit false

namespace DerivedQuery.Meaning

/-- What a model makes of data given by name. -/
def entityOf (described : Model) (arguments : List Meaning) (named : List (String × Meaning)) :
    Except Failure Meaning :=
  if !arguments.isEmpty then .error (.positionalData arguments.length)
  else
    match toEntries? (named.map fun entry => (text entry.1, entry.2)) with
    | none => .ok .unknown
    | some _ => do
        let record := named.filterMap fun entry => entry.2.toDatum?.map fun d => (entry.1, d)
        discard (described.load record)
        .ok (.object described.name (described.name ++ "()"))

/-- What a form makes of some arguments: nothing. -/
def formCall (name : String) (arguments : List Meaning) : Except Failure Meaning :=
  match name with
  | "Any" => misuse "Any cannot be instantiated"
  | "List" => misuse "Type List cannot be instantiated; use list() instead"
  | "Optional" => misuse "Cannot instantiate typing.Optional"
  | _ =>
      if !arguments.isEmpty then misuse (name ++ "() takes no arguments")
      else
        misuse ("Can't instantiate abstract class " ++ name ++
          " with abstract methods __getitem__, __len__")

/-- What something other than a function of its own yields for some arguments. -/
def invoke (callee : Meaning) (arguments : List Meaning) (named : List (String × Meaning)) :
    Except Failure Meaning :=
  match callee with
  | .unknown => .ok .unknown
  | .builtinClass name => make name arguments named
  | .applied false name _ | .spread (.applied false name _) => make name arguments named
  | .model described => entityOf described arguments named
  | .form name | .applied true name _ => formCall name (arguments ++ named.map Prod.snd)
  | .either true _ => misuse "Cannot instantiate typing.Union"
  | .spread _ => misuse "Cannot instantiate typing.Unpack"
  | .function name => yielded name arguments named
  | .method receiver name => methodResult receiver name arguments named
  | _ => if callee.isCallable then .ok .unknown else .error (.notCallable callee.typeName)

/-- What messages about arguments call something that is called. -/
def calleeName : Meaning → String
  | .builtinClass name | .function name | .applied false name _ => name ++ "()"
  | .form name | .applied true name _ => "typing." ++ name ++ "()"
  | .closure path _ _ _ _ _ => path ++ "()"
  | .model described => described.qualifiedName ++ "()"
  | other => other.plainText

end DerivedQuery.Meaning
