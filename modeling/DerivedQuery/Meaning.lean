import DerivedQuery.Datum.Attribute
import DerivedQuery.Expression
import DerivedQuery.Model

/-!
# Meanings of expressions

An expression means a model, a class, a form that takes arguments, one of these with arguments,
alternatives of such, a function, a collection of meanings, a datum, or some other object. What
depends on more than the text of an expression is unknown, and so is everything that is made of it.
-/

set_option autoImplicit false

namespace DerivedQuery

/-- What an expression means. -/
inductive Meaning where
  /-- A datum that is no collection. -/
  | datum (value : Datum)
  | ellipsis
  | model (described : Model)
  | builtinClass (name : String)
  | form (name : String)
  /-- A class or, where `generic` holds, a form with arguments. -/
  | applied (generic : Bool) (name : String) (arguments : List Meaning)
  /-- Alternatives, in a form where `generic` holds. -/
  | either (generic : Bool) (members : List Meaning)
  /-- What a type with arguments yields when it is spread. -/
  | spread (item : Meaning)
  /-- A function that is known everywhere. -/
  | function (name : String)
  /-- A function that an expression describes, with the path of its own name and the names that it
  was made among. -/
  | closure (path : String) (parameters : List Parameter) (fallbacks : List (String × Meaning))
      (suspends : Bool) (body : Expression) (captured : List (String × Meaning))
  /-- A gathering that is done when its elements are asked for, with the path of what is around it.
  The elements of its first source are known already. -/
  | generator (path : String) (first : List Meaning) (item : Expression)
      (clauses : List GatheringClause) (captured : List (String × Meaning))
  | tuple (items : List Meaning)
  | list (items : List Meaning)
  | set (frozen : Bool) (items : List Meaning)
  | dictionary (entries : List (Meaning × Meaning))
  | slice (first last step : Meaning)
  /-- An object that yields some meanings, by its type. -/
  | iterator (typeName : String) (items : List Meaning)
  /-- A method of a meaning. -/
  | method (receiver : Meaning) (name : String)
  /-- Any other object, by its type and its own text. -/
  | object (typeName written : String)
  | unknown

namespace Meaning

/-- Nothing at all. -/
def null : Meaning := .datum .null

/-- A text. -/
def text (content : String) : Meaning := .datum (.text content)

/-- A whole number. -/
def integer (n : Int) : Meaning := .datum (.integer n)

/-- A truth value. -/
def truth (b : Bool) : Meaning := .datum (.boolean b)

/-- The name of the type of a meaning. -/
def typeName : Meaning → String
  | .datum value => value.typeName
  | .ellipsis => "ellipsis"
  | .model _ => "ModelMetaclass"
  | .builtinClass _ => "type"
  | .form "Any" => "_AnyMeta"
  | .form "Optional" => "_SpecialForm"
  | .form _ => "_SpecialGenericAlias"
  | .applied generic _ _ => if generic then "_GenericAlias" else "types.GenericAlias"
  | .either generic _ => if generic then "_UnionGenericAlias" else "types.UnionType"
  | .spread (.applied false _ _) => "types.GenericAlias"
  | .spread _ => "_UnpackGenericAlias"
  | .function _ => "builtin_function_or_method"
  | .closure _ _ _ _ _ _ => "function"
  | .generator _ _ _ _ _ => "generator"
  | .tuple _ => "tuple"
  | .list _ => "list"
  | .set frozen _ => if frozen then "frozenset" else "set"
  | .dictionary _ => "dict"
  | .slice _ _ _ => "slice"
  | .iterator name _ => name
  | .method _ _ => "builtin_function_or_method"
  | .object name _ => name
  | .unknown => "object"

/-- The class of a meaning. -/
def classOf (meaning : Meaning) : Meaning :=
  match meaning with
  | .unknown => .unknown
  | _ => .builtinClass meaning.typeName

/-- The classes of forms, with arguments or without. -/
def formClassNames : List String :=
  ["_AnyMeta", "_GenericAlias", "_SpecialForm", "_SpecialGenericAlias", "_UnionGenericAlias",
    "_UnpackGenericAlias"]

/-- The name of a class within its module, by which texts show it. Most classes are known everywhere
and shown by their own names. -/
def qualifiedClass (name : String) : String :=
  if formClassNames.contains name then "typing." ++ name
  else if name = "ModelMetaclass" then "pydantic._internal._model_construction." ++ name
  else if ["Quitter", "_Helper", "_Printer"].contains name then "_sitebuiltins." ++ name
  else name

mutual

/-- The text of a meaning in a message. -/
def written : Meaning → String
  | .datum value => value.written
  | .ellipsis => "Ellipsis"
  | .model described => "<class " ++ Text.quoted described.qualifiedName ++ ">"
  | .builtinClass name => "<class " ++ Text.quoted (qualifiedClass name) ++ ">"
  | .form name => "typing." ++ name
  | .applied generic name arguments =>
      let shown := if arguments.isEmpty then ["()"] else argumentTexts generic arguments
      (if generic then "typing." else "") ++ name ++ Datum.bracketed "[" shown "]"
  | .either true [item, .builtinClass "NoneType"]
  | .either true [.builtinClass "NoneType", item] =>
      "typing.Optional" ++ Datum.bracketed "[" (argumentTexts true [item]) "]"
  | .either true members =>
      "typing.Union" ++ Datum.bracketed "[" (argumentTexts true members) "]"
  | .either false members => " | ".intercalate (argumentTexts false members)
  | .spread item => "*" ++ written item
  | .function name => "<built-in function " ++ name ++ ">"
  | .closure _ _ _ _ _ _ => "<function <lambda>>"
  | .generator _ _ _ _ _ => "<generator object <genexpr>>"
  | .tuple items => Datum.tupleText (writtenAll items)
  | .list items => Datum.bracketed "[" (writtenAll items) "]"
  | .set frozen items =>
      let inner := Datum.bracketed "\x7b" (writtenAll items) "\x7d"
      if items.isEmpty then (if frozen then "frozenset()" else "set()")
      else if frozen then "frozenset(" ++ inner ++ ")" else inner
  | .dictionary entries => Datum.bracketed "\x7b" (writtenEntries entries) "\x7d"
  | .slice first last step =>
      Datum.bracketed "slice(" [written first, written last, written step] ")"
  | .iterator name items =>
      if name.startsWith "dict_" then
        name ++ Datum.bracketed "([" (writtenAll items) "])"
      else "<" ++ name ++ " object>"
  | .method _ name => "<built-in method " ++ name ++ ">"
  | .object _ shown => shown
  | .unknown => "<object>"

/-- The texts of meanings in a message. -/
def writtenAll : List Meaning → List String
  | [] => []
  | item :: rest => written item :: writtenAll rest

/-- The texts of the entries of a dictionary. -/
def writtenEntries : List (Meaning × Meaning) → List String
  | [] => []
  | (key, value) :: rest => (written key ++ ": " ++ written value) :: writtenEntries rest

/-- The texts of meanings as arguments of a form, where `generic` holds, or of a class. Classes go
by their names. -/
def argumentTexts (generic : Bool) : List Meaning → List String
  | [] => []
  | item :: rest =>
      let shown := match item with
        | .model described => described.qualifiedName
        | .builtinClass name =>
            if name = "NoneType" ∧ !generic then "None" else qualifiedClass name
        | .ellipsis => "..."
        | .datum (.text content) =>
            if generic then "ForwardRef(" ++ Text.quoted content ++ ")" else Text.quoted content
        | .function name => if generic then written (.function name) else name
        | .closure path _ _ _ _ _ => if generic then "<lambda>" else path
        | other => written other
      shown :: argumentTexts generic rest

end

instance : Repr Meaning := ⟨fun meaning _ => meaning.written⟩

/-- The text that a meaning stands for on its own. -/
def plainText : Meaning → String
  | .datum value => value.plainText
  | meaning => meaning.written

/-- Is each of some tests passed by the meaning at its place? -/
def agree : List (Meaning → Bool) → List Meaning → Bool
  | [], [] => true
  | test :: tests, item :: rest => test item && agree tests rest
  | _, _ => false

/-- Is each of some tests passed by one of some meanings? -/
def allHeld (tests : List (Meaning → Bool)) (items : List Meaning) : Bool :=
  tests.all fun test => items.any test

mutual

/-- Are two meanings equal? -/
def same : Meaning → Meaning → Bool
  | .datum a, .datum b => a.sameKey b
  | .ellipsis, .ellipsis => true
  | .model a, .model b => a.id == b.id
  | .builtinClass a, .builtinClass b => a == b
  | .form a, .form b => a == b
  | .applied genericA a argumentsA, .applied genericB b argumentsB =>
      genericA == genericB && a == b && agree (equals argumentsA) argumentsB
  | .either _ a, .either _ b => a.length == b.length && allHeld (equals a) b
  | .spread a, .spread b => same a b
  | .function a, .function b => a == b
  | .tuple a, .tuple b => agree (equals a) b
  | .list a, .list b => agree (equals a) b
  | .set _ a, .set _ b => a.length == b.length && allHeld (equals a) b
  | .dictionary a, .dictionary b =>
      a.length == b.length && (entryTests a).all fun test => b.any test
  | .slice a b c, .slice x y z => same a x && same b y && same c z
  | .object typeA a, .object typeB b => typeA == typeB && a == b
  | _, _ => false

/-- What the meanings of a list are equal to, one by one. -/
def equals : List Meaning → List (Meaning → Bool)
  | [] => []
  | item :: rest => (fun other => same item other) :: equals rest

/-- What the entries of a dictionary are equal to, one by one. -/
def entryTests : List (Meaning × Meaning) → List (Meaning × Meaning → Bool)
  | [] => []
  | (key, value) :: rest =>
      (fun other => same key other.1 && same value other.2) :: entryTests rest

end

/-- Does a condition hold? Nothing, zero and whatever is empty count as false. -/
def isTrue : Meaning → Bool
  | .datum value => value.isTrue
  | .tuple items | .list items | .set _ items => !items.isEmpty
  | .dictionary entries => !entries.isEmpty
  | _ => true

mutual

/-- The name of the type that keeps a meaning from being a key, if there is one. -/
def changeable? : Meaning → Option String
  | .datum value => value.changeable?
  | .list _ => some "list"
  | .set false _ => some "set"
  | .dictionary _ => some "dict"
  | .slice _ _ _ => some "slice"
  | .tuple items => changeableItem? items
  | .applied _ _ arguments => changeableItem? arguments
  | .either _ members => changeableItem? members
  | .spread item => changeable? item
  | _ => none

/-- The name of the type that keeps the first such of some meanings from being a key, if there is
one. -/
def changeableItem? : List Meaning → Option String
  | [] => none
  | item :: rest =>
      match changeable? item with
      | some name => some name
      | none => changeableItem? rest

end

/-- Fails where a meaning cannot be a key. -/
def checkKey (meaning : Meaning) : Except Failure Unit :=
  match meaning.changeable? with
  | some name => .error (.unhashable name)
  | none => .ok ()

/-- Puts a meaning into a set, unless an equal one is there. -/
def insert (items : List Meaning) (item : Meaning) : Except Failure (List Meaning) := do
  item.checkKey
  .ok (if items.any item.same then items else items ++ [item])

/-- The first of equal meanings alone. -/
def distinct (items : List Meaning) : Except Failure (List Meaning) := items.foldlM insert []

/-- Puts an entry into a dictionary: a key that comes again keeps its place and gets the new value.
-/
def insertEntry (entries : List (Meaning × Meaning)) (entry : Meaning × Meaning) :
    Except Failure (List (Meaning × Meaning)) := do
  entry.1.checkKey
  .ok (Dictionary.putBy same entry.1 entry.2 entries)

/-- Puts entries into a dictionary, one after the other. -/
def insertEntries (entries more : List (Meaning × Meaning)) :
    Except Failure (List (Meaning × Meaning)) := more.foldlM insertEntry entries

/-- The elements of a meaning, where they are known without further work. A type with arguments
yields itself, spread; a class that is spread already yields itself again. -/
def elements? : Meaning → Option (List Meaning)
  | .datum value => value.elements?.map fun items => items.map .datum
  | .tuple items | .list items | .set _ items | .iterator _ items => some items
  | .dictionary entries => some (entries.map Prod.fst)
  | .applied generic name arguments => some [.spread (.applied generic name arguments)]
  | .spread (.applied false name arguments) => some [.spread (.applied false name arguments)]
  | .spread item => some [.spread (.spread item)]
  | .unknown => some [.unknown]
  | _ => none

/-- Does the type of a meaning say by itself that there are no elements? -/
def refusesIteration : Meaning → Bool
  | .form name => name != "Any"
  | .either generic _ => generic
  | _ => false

mutual

/-- A meaning as a datum, where it is one. -/
def toDatum? : Meaning → Option Datum
  | .datum value => some value
  | .tuple items => (toData? items).map .tuple
  | .list items => (toData? items).map .list
  | .dictionary entries => (toEntries? entries).map .dict
  | _ => none

/-- Meanings as data, where all of them are. -/
def toData? : List Meaning → Option (List Datum)
  | [] => some []
  | item :: rest => do
      let datum ← toDatum? item
      let others ← toData? rest
      some (datum :: others)

/-- Entries as entries of data, where all of them are. -/
def toEntries? : List (Meaning × Meaning) → Option (List (Datum × Datum))
  | [] => some []
  | (key, value) :: rest => do
      let key ← toDatum? key
      let value ← toDatum? value
      let others ← toEntries? rest
      some ((key, value) :: others)

end

end Meaning

end DerivedQuery
