import DerivedQuery.Log.Template.Conversion
import DerivedQuery.Meaning.Attribute
import DerivedQuery.Meaning.Class
import DerivedQuery.Meaning.Layout
import DerivedQuery.Meaning.Relation
import DerivedQuery.StableSort

/-!
# Functions

The functions that are known everywhere tell something about an object, compare objects or reckon
with numbers. What all others of them yield is unknown.
-/

set_option autoImplicit false

namespace DerivedQuery.Meaning

/-- The functions of exactly one argument. -/
def unaryNames : List String :=
  ["abs", "aiter", "all", "any", "ascii", "bin", "callable", "chr", "hash", "hex", "id", "len",
    "oct", "ord", "repr"]

/-- The number of elements of a meaning. -/
def length (given : Meaning) : Except Failure Meaning :=
  match given with
  | .unknown => .ok .unknown
  | .applied _ _ _ | .spread _ | .iterator _ _ | .object _ _ =>
      misuse ("object of type " ++ Text.quoted given.typeName ++ " has no len()")
  | _ =>
      match given.elements? with
      | some items => .ok (integer items.length)
      | none => misuse ("object of type " ++ Text.quoted given.typeName ++ " has no len()")

/-- May a meaning be called? -/
def isCallable : Meaning → Bool
  | .model _ | .builtinClass _ | .form _ | .applied _ _ _ | .either true _ | .spread _
  | .function _ | .closure _ _ _ _ _ _ | .method _ _ => true
  | .object typeName _ =>
      ["builtin_function_or_method", "method_descriptor", "function", "type", "Quitter", "_Printer",
        "_Helper"].contains typeName
  | _ => false

/-- A whole number written in a base behind its mark. -/
def inBase (base : Nat) (mark : String) (n : Int) : Meaning :=
  text ((if n < 0 then "-" else "") ++ mark ++ String.ofList (Nat.toDigits base n.natAbs))

/-- What a function of one argument yields. -/
def tell (name : String) (given : Meaning) : Except Failure Meaning :=
  let whole (result : Int → Except Failure Meaning) : Except Failure Meaning :=
    match given.wholeNumber? with
    | some n => result n
    | none => notInteger given
  match given with
  | .unknown => .ok .unknown
  | _ =>
      match name with
      | "len" => length given
      | "repr" => .ok (text given.written)
      | "ascii" => .ok (text (String.ofList (Text.ascii given.written.toList)))
      | "callable" => .ok (truth given.isCallable)
      | "any" => given.elements.map fun items => truth (items.any isTrue)
      | "all" => given.elements.map fun items => truth (items.all isTrue)
      | "hex" => whole fun n => .ok (inBase 16 "0x" n)
      | "oct" => whole fun n => .ok (inBase 8 "0o" n)
      | "bin" => whole fun n => .ok (inBase 2 "0b" n)
      | "chr" => whole fun n =>
          if n < 0 ∨ 0x110000 ≤ n then
            .error (.expression (.badValue "chr() arg not in range(0x110000)"))
          else if n.toNat.isValidChar then .ok (text (Char.ofNat n.toNat).toString)
          else .ok .unknown
      | "ord" =>
          match given with
          | .datum (.text content) =>
              match content.toList with
              | [c] => .ok (integer c.toNat)
              | cs =>
                  misuse ("ord() expected a character, but string of length " ++
                    toString cs.length ++ " found")
          | .datum (.bytes [byte]) => .ok (integer byte.toNat)
          | _ =>
              misuse ("ord() expected string of length 1, but " ++ given.typeName ++ " found")
      | "abs" =>
          match given.numeric? with
          | some (.whole n) => .ok (integer n.natAbs)
          | some (.real (.finite _ e f)) => .ok (.datum (.double (.finite false e f)))
          | some (.real _) => .ok .unknown
          | none =>
              if given.isComplex then .ok .unknown
              else .error (.expression (.operand "abs()" given.typeName))
      | "hash" => do
          given.checkKey
          .ok .unknown
      | _ => .ok .unknown

/-- The fault of asking a function about a type with arguments. -/
def appliedClassFault (callee : String) (isForm : Bool) : Except Failure Meaning :=
  misuse (if isForm then "Subscripted generics cannot be used with class and instance checks"
    else callee ++ "() argument 2 cannot be a parameterized generic")

/-- Is a meaning an object of a class? It is not known for classes that are not known everywhere. -/
def isInstance (given type : Meaning) : Except Failure Meaning :=
  match type with
  | .builtinClass name =>
      .ok (if given matches .unknown then .unknown
        else truth (name == "object" || given.typeName == name ||
          (name == "int" && given.typeName == "bool")))
  | .datum _ | .list _ | .dictionary _ | .set _ _ | .ellipsis =>
      misuse "isinstance() arg 2 must be a type, a tuple of types, or a union"
  | .applied isForm _ _ => appliedClassFault "isinstance" isForm
  | .spread item => appliedClassFault "isinstance" !(item matches .applied false _ _)
  | .form "Any" => misuse "typing.Any cannot be used with isinstance()"
  | .form "Optional" => misuse "typing.Optional cannot be used with isinstance()"
  | _ => .ok .unknown

/-- The text of a value, written as a letter says and laid out by a text. -/
def shownText (value : Meaning) (conversion : Option Char) (layout : String) :
    Except Failure Meaning :=
  let shown (content : String) : Except Failure Meaning :=
    if layout.isEmpty then .ok (text content) else laidOut (text content) layout
  match value, conversion with
  | .unknown, _ => .ok .unknown
  | _, some 'r' => shown value.written
  | _, some 'a' => shown (String.ofList (Text.ascii value.written.toList))
  | _, some _ => shown value.plainText
  | _, none => if layout.isEmpty then shown value.plainText else laidOut value layout

/-- The greatest of some meanings, or the least, and the first of equal ones. -/
def extreme (relation : Relation) (best : Meaning) : List Meaning → Except Failure Meaning
  | [] => .ok best
  | item :: rest => do
      let better ← isOrdered relation item best
      extreme relation (if better then item else best) rest

/-- The greatest or the least argument, or element of the only argument. -/
def extremeOf (name : String) (arguments : List Meaning) : Except Failure Meaning := do
  let relation := if name = "max" then Relation.greater else .less
  let items ← match arguments with
    | [] => do
        within name 1 0 0
        .ok []
    | [given] => given.elements
    | several => .ok several
  match items with
  | [] => .error (.expression (.badValue (name ++ "() arg is an empty sequence")))
  | first :: rest =>
      if items.any fun item => item matches .unknown then .ok .unknown
      else extreme relation first rest

/-- Some meanings in order. All neighbours must have an order. -/
def sortedItems (items : List Meaning) : Except Failure Meaning := do
  (items.zip (items.drop 1)).forM fun pair => discard (isOrdered .less pair.2 pair.1)
  let isLess (a b : Meaning) : Bool := (isOrdered .less a b).toOption == some true
  .ok (.list (stableSort isLess items))

/-- The sum of a start and some meanings. -/
def sumFrom (start : Meaning) (items : List Meaning) : Except Failure Meaning :=
  items.foldlM (operate .sum) start

/-- What yields the elements of a meaning. -/
def iteratorOf (given : Meaning) : Except Failure Meaning :=
  match given with
  | .unknown => .ok .unknown
  | .iterator _ _ | .generator _ _ _ _ _ => .ok given
  | .dictionary _ => given.elements.map (.iterator "dict_keyiterator")
  | .set _ _ => given.elements.map (.iterator "set_iterator")
  | .applied _ _ _ | .spread (.applied false _ _) =>
      given.elements.map (.iterator "generic_alias_iterator")
  | .datum (.text content) =>
      let isAscii := content.toList.all fun c => c.toNat < 0x80
      given.elements.map (.iterator (if isAscii then "str_ascii_iterator" else "str_iterator"))
  | _ => given.elements.map (.iterator (given.typeName ++ "_iterator"))

/-- The quotient of two numbers and what it leaves. -/
def quotientAndRemainder (a b : Meaning) : Except Failure Meaning :=
  match a.numeric?, b.numeric? with
  | some _, some _ => do
      let quotient ← operate .wholeQuotient a b
      let rest ← operate .remainder a b
      .ok (.tuple [quotient, rest])
  | _, _ =>
      if a matches .unknown || b matches .unknown then .ok .unknown
      else .error (.expression (.operands "divmod()" a.typeName b.typeName))

/-- A number rounded to a whole one. -/
def rounded (given : Meaning) : Except Failure Meaning :=
  match given.numeric? with
  | some (.whole n) => .ok (integer n)
  | some (.real d) =>
      match d.units? with
      | some units =>
          let size : Int := Double.roundedQuotient units.natAbs Double.unit
          .ok (integer (if units < 0 then -size else size))
      | none => .ok .unknown
  | none =>
      if given matches .unknown then .ok .unknown
      else misuse ("type " ++ given.typeName ++ " doesn't define __round__ method")

/-- Is there an attribute of a name? -/
def hasAttribute (given wanted : Meaning) : Except Failure Meaning :=
  match given, wanted with
  | .unknown, _ | _, .unknown => .ok .unknown
  | _, .datum (.text name) =>
      match given.member name with
      | .ok _ => .ok (truth true)
      | .error _ => .ok (truth false)
  | _, other => misuse ("attribute name must be string, not " ++ Text.quoted other.typeName)

/-- An attribute of a name, or what stands in for it. -/
def attributeOr (given wanted : Meaning) (fallback : Option Meaning) : Except Failure Meaning :=
  match given, wanted with
  | .unknown, _ | _, .unknown => .ok .unknown
  | _, .datum (.text name) =>
      match given.member name, fallback with
      | .ok found, _ => .ok found
      | .error _, some other => .ok other
      | .error fault, none => .error fault
  | _, other => misuse ("attribute name must be string, not " ++ Text.quoted other.typeName)

/-- Is one class made from another? It is known of the same class and of the class of all objects.
-/
def isSubclass (given type : Meaning) : Except Failure Meaning :=
  match given, type with
  | .unknown, _ | _, .unknown => .ok .unknown
  | .builtinClass a, .builtinClass b =>
      .ok (if a = b ∨ b = "object" ∨ (a = "bool" ∧ b = "int") then truth true else .unknown)
  | .model _, .applied isForm _ _ | .builtinClass _, .applied isForm _ _ =>
      appliedClassFault "issubclass" isForm
  | .model _, _ | .builtinClass _, .model _ => .ok .unknown
  | .builtinClass _, .datum _ =>
      misuse "issubclass() arg 2 must be a class, a tuple of classes, or a union"
  | .builtinClass _, _ => .ok .unknown
  | .datum _, _ | .list _, _ | .tuple _, _ | .dictionary _, _ =>
      misuse "issubclass() arg 1 must be a class"
  | _, _ => .ok .unknown

/-- The numbers of arguments, from the least to the most, of the functions that take no argument by
name. -/
def arities : List (String × Nat × Nat) :=
  [("isinstance", 2, 2), ("issubclass", 2, 2), ("getattr", 2, 3), ("hasattr", 2, 2),
    ("setattr", 3, 3), ("delattr", 2, 2), ("divmod", 2, 2), ("format", 1, 2), ("iter", 1, 2),
    ("next", 1, 2), ("eval", 1, 3)]

/-- What a function of several arguments yields. -/
def tellOf (name : String) (arguments : List Meaning) : Except Failure Meaning :=
  match name, arguments with
  | "isinstance", [given, type] => isInstance given type
  | "issubclass", [given, type] => isSubclass given type
  | "getattr", [given, wanted] => attributeOr given wanted none
  | "getattr", [given, wanted, fallback] => attributeOr given wanted (some fallback)
  | "hasattr", [given, wanted] => hasAttribute given wanted
  | "divmod", [a, b] => quotientAndRemainder a b
  | "format", [given] => shownText given none ""
  | "format", [given, .datum (.text layout)] => shownText given none layout
  | "format", [_, .unknown] => .ok .unknown
  | "format", [_, other] => misuse ("format() argument 2 must be str, not " ++ other.typeName)
  | "iter", [given] => iteratorOf given
  | "next", .iterator _ (first :: _) :: _ => .ok first
  | "next", [.iterator _ [], fallback] => .ok fallback
  | "next", given :: _ =>
      if given matches .unknown || given matches .iterator _ _ || given matches .generator _ _ _ _ _
      then .ok .unknown
      else misuse (Text.quoted given.typeName ++ " object is not an iterator")
  | "eval", given :: _ =>
      if given matches .unknown || given matches .datum (.bytes _) then .ok .unknown
      else misuse "eval() arg 1 must be a string, bytes or code object"
  | _, _ => .ok .unknown

/-- What a function that takes some arguments by name yields. -/
def tellNamed (name : String) (arguments : List Meaning) (named : List (String × Meaning)) :
    Except Failure Meaning :=
  let refuseNames (callee : String) (allowed : List String) (result : Except Failure Meaning) :
      Except Failure Meaning :=
    match named.find? fun entry => !allowed.contains entry.1 with
    | some entry =>
        misuse (Text.quoted entry.1 ++ " is an invalid keyword argument for " ++ callee ++ "()")
    | none => if named.isEmpty then result else .ok .unknown
  match name, arguments with
  | "print", _ =>
      refuseNames "print" ["sep", "end", "file", "flush"] (.ok null)
  | "max", [] | "min", [] => extremeOf name []
  | "max", _ | "min", _ => refuseNames name ["key", "default"] (extremeOf name arguments)
  | "sorted", [given] => do
      let items ← given.elements
      refuseNames "sort" ["key", "reverse"] (sortedItems items)
  | "sorted", _ => do
      within name 1 1 arguments.length
      .ok .unknown
  | "sum", [] => misuse "sum() takes at least 1 positional argument (0 given)"
  | "sum", [given] => refuseNames name ["start"] do
      let items ← given.elements
      sumFrom (integer 0) items
  | "sum", [_, .datum (.text _)] => misuse "sum() can't sum strings [use ''.join(seq) instead]"
  | "sum", [given, start] => refuseNames name [] do
      let items ← given.elements
      sumFrom start items
  | "round", [given] => if named.isEmpty then rounded given else .ok .unknown
  | "round", [] =>
      if named.isEmpty then misuse "round() missing required argument 'number' (pos 1)"
      else .ok .unknown
  | "pow", [base, exponent] => if named.isEmpty then operate .power base exponent else .ok .unknown
  | "pow", [_] =>
      if named.isEmpty then misuse "pow() missing required argument 'exp' (pos 2)"
      else .ok .unknown
  | "pow", [] =>
      if named.isEmpty then misuse "pow() missing required argument 'base' (pos 1)"
      else .ok .unknown
  | _, _ => .ok .unknown

/-- What a function that is known everywhere yields. -/
def yielded (name : String) (arguments : List Meaning) (named : List (String × Meaning)) :
    Except Failure Meaning :=
  let count := arguments.length
  let refuse : Except Failure Meaning := misuse (name ++ "() takes no keyword arguments")
  if unaryNames.contains name then
    match named, arguments with
    | _ :: _, _ => refuse
    | [], [given] => tell name given
    | [], _ =>
        misuse (name ++ "() takes exactly one argument (" ++ toString count ++ " given)")
  else
    match Dictionary.get? arities name with
    | some (least, most) =>
        if !named.isEmpty then refuse
        else do
          within name least most count
          tellOf name arguments
    | none => tellNamed name arguments named

end DerivedQuery.Meaning
