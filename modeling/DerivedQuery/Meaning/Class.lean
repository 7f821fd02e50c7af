import DerivedQuery.Meaning.Known
import DerivedQuery.Meaning.Operation
import DerivedQuery.Sequence
import DerivedQuery.Text.DecimalDigit

/-!
# Classes

A class makes an object of its arguments: numbers and texts of each other, collections of the
elements of others, and failures of anything. What all other classes make is unknown.
-/

set_option autoImplicit false

namespace DerivedQuery.Meaning

/-- The fault of a use that a type does not allow. -/
def misuse (message : String) : Except Failure Meaning := .error (.expression (.misuse message))

/-- The fault of something that has to be a whole number. -/
def notInteger (given : Meaning) : Except Failure Meaning :=
  misuse (Text.quoted given.typeName ++ " object cannot be interpreted as an integer")

/-- The elements of a meaning. -/
def elements (meaning : Meaning) : Except Failure (List Meaning) :=
  match meaning.elements? with
  | some items => .ok items
  | none => .error (.notIterable meaning.typeName)

/-- A number of arguments in a message. -/
def argumentCount (count : Nat) : String :=
  toString count ++ " argument" ++ ArgumentFault.ending count

/-- Does a number of arguments lie in a range? The message tells of the end that it is beyond. -/
def within (name : String) (least most given : Nat) : Except Failure Unit :=
  let fail (expected : String) : Except Failure Unit :=
    .error (.expression (.misuse
      (name ++ " expected " ++ expected ++ ", got " ++ toString given)))
  if least ≤ given ∧ given ≤ most then .ok ()
  else if least = most then fail (argumentCount least)
  else if given < least then fail ("at least " ++ argumentCount least)
  else fail ("at most " ++ argumentCount most)

/-- The whole number that a text spells, with single low lines between digits and blanks around. -/
def wholeOfText? (content : String) : Option Int :=
  let blank := fun c : Char => c.isWhitespace || c = '\x0b' || c = '\x0c'
  let cs := ((content.toList.dropWhile blank).reverse.dropWhile blank).reverse
  let (negative, digits) := Numeral.splitSign cs
  let pieces := splitWhen (· == '_') digits
  if pieces.any (fun piece => piece.isEmpty || !piece.all Text.isDigit) then none
  else
    let size : Int := Text.digitsValue pieces.flatten
    some (if negative then -size else size)

/-- The whole number that a meaning is made into. -/
def toWhole (given : Meaning) : Except Failure Meaning :=
  let fromText (content shown : String) : Except Failure Meaning :=
    match wholeOfText? content with
    | some n => .ok (integer n)
    | none =>
        .error (.expression (.badValue ("invalid literal for int() with base 10: " ++ shown)))
  match given, given.numeric? with
  | .unknown, _ => .ok .unknown
  | _, some (.whole n) => .ok (integer n)
  | _, some (.real d) =>
      match d.units? with
      | some units => .ok (integer (units.tdiv Double.unit))
      | none => .ok .unknown
  | .datum (.text content), _ => fromText content given.written
  | .datum (.bytes content), _ =>
      fromText (String.ofList (content.map fun byte => Char.ofNat byte.toNat)) given.written
  | _, none =>
      misuse ("int() argument must be a string, a bytes-like object or a real number, not " ++
        Text.quoted given.typeName)

/-- The double that a meaning is made into. -/
def toReal (given : Meaning) : Except Failure Meaning :=
  match given, given.numeric? with
  | .unknown, _ => .ok .unknown
  | _, some (.whole n) => (nearestDouble n).map fun d => .datum (.double d)
  | _, some (.real d) => .ok (.datum (.double d))
  | .datum (.text content), _ =>
      match Numeral.double? content with
      | some d => .ok (.datum (.double d))
      | none =>
          .error (.expression (.badValue
            ("could not convert string to float: " ++ given.written)))
  | .datum (.bytes _), _ => .ok .unknown
  | _, none =>
      misuse ("float() argument must be a string or a real number, not " ++
        Text.quoted given.typeName)

/-- Puts pairs of key and value into a dictionary; `position` is the number of pairs before. -/
def insertPairs (entries : List (Meaning × Meaning)) (position : Nat) :
    List Meaning → Except Failure (List (Meaning × Meaning))
  | [] => .ok entries
  | .unknown :: rest => insertPairs entries (position + 1) rest
  | item :: rest =>
      match item.elements? with
      | none => .error (.noPair position)
      | some [key, value] => do
          let more ← insertEntry entries (key, value)
          insertPairs more (position + 1) rest
      | some parts => .error (.pairLength position parts.length)

/-- The dictionary that a meaning describes. -/
def toDictionary (given : Meaning) : Except Failure (List (Meaning × Meaning)) :=
  match given with
  | .dictionary entries => .ok entries
  | _ => do
      let items ← given.elements
      insertPairs [] 0 items

/-- The whole numbers up to a bound, or some others. -/
def rangeOf (arguments : List Meaning) : Except Failure Meaning := do
  within "range" 1 3 arguments.length
  match arguments.find? fun argument => argument.wholeNumber?.isNone with
  | some .unknown => .ok .unknown
  | some other => notInteger other
  | none =>
      match arguments.filterMap wholeNumber? with
      | [stop] =>
          if stop.toNat ≤ mostElements then .ok (.datum (.foreign (.range stop.toNat)))
          else .ok .unknown
      | [_, _, 0] => .error (.expression (.badValue "range() arg 3 must not be zero"))
      | _ => .ok .unknown

/-- The names of the classes whose objects are made of elements. -/
def collectionNames : List String := ["list", "tuple", "set", "frozenset"]

/-- The classes whose objects yield the elements of their arguments. -/
def iteratorNames : List String := ["enumerate", "reversed", "zip"]

/-- The pairs of a position and the element at it. -/
def numbered (items : List Meaning) : List Meaning :=
  items.zipIdx.map fun entry => .tuple [integer entry.2, entry.1]

/-- The elements of several sequences side by side, as long as all have some. There are fewer than
`bound`. -/
def sideBySide : Nat → List (List Meaning) → List Meaning
  | 0, _ => []
  | bound + 1, sequences =>
      if sequences.isEmpty || sequences.any List.isEmpty then []
      else
        .tuple (sequences.filterMap List.head?) :: sideBySide bound (sequences.map (List.drop 1))

/-- The type of what yields the elements of a meaning from the end. -/
def reverseTypeName (given : Meaning) : String :=
  match given with
  | .list _ => "list_reverseiterator"
  | .dictionary _ => "dict_reversekeyiterator"
  | .datum (.foreign _) => "range_iterator"
  | _ => "reversed"

/-- What yields the elements of some arguments: one after the other from the end, with their
positions, or side by side. -/
def iterate (name : String) (arguments : List Meaning) : Except Failure Meaning :=
  match name, arguments with
  | "reversed", [given] =>
      match given with
      | .unknown => .ok .unknown
      | .list _ | .tuple _ | .dictionary _ | .datum (.text _) | .datum (.bytes _)
      | .datum (.foreign (.range _)) =>
          given.elements.map fun items => .iterator given.reverseTypeName items.reverse
      | _ => misuse (Text.quoted given.typeName ++ " object is not reversible")
  | "reversed", _ => do
      within "reversed" 1 1 arguments.length
      .ok .unknown
  | "enumerate", [given] => given.elements.map fun items => .iterator "enumerate" (numbered items)
  | "enumerate", [] => misuse "enumerate() missing required argument 'iterable'"
  | "enumerate", _ => .ok .unknown
  | _, _ => do
      let sequences ← arguments.mapM elements
      let bound := (sequences.map List.length).foldl max 0
      .ok (.iterator "zip" (sideBySide bound sequences))

/-- The collection of a class with some elements. -/
def collect (name : String) (items : List Meaning) : Except Failure Meaning :=
  match name with
  | "list" => .ok (.list items)
  | "tuple" => .ok (.tuple items)
  | "set" => (distinct items).map (.set false)
  | _ => (distinct items).map (.set true)

/-- What a class makes of one argument at most. -/
def makeOf (name : String) : List Meaning → Except Failure Meaning
  | [] =>
      match name with
      | "int" => .ok (integer 0)
      | "float" => .ok (.datum (.double (Double.ofInt 0)))
      | "str" => .ok (text "")
      | _ => .ok (truth false)
  | [given] =>
      match name with
      | "int" => toWhole given
      | "float" => toReal given
      | "str" => .ok (match given with | .unknown => .unknown | _ => text given.plainText)
      | _ => .ok (match given with | .unknown => .unknown | _ => truth given.isTrue)
  | _ => .ok .unknown

/-- What a class makes of its arguments. -/
def make (name : String) (arguments : List Meaning) (named : List (String × Meaning)) :
    Except Failure Meaning :=
  let count := arguments.length
  let refuseNames (allowed : List String) (result : Except Failure Meaning) :
      Except Failure Meaning :=
    match named.find? fun entry => !allowed.contains entry.1 with
    | some entry =>
        misuse (Text.quoted entry.1 ++ " is an invalid keyword argument for " ++ name ++ "()")
    | none => if named.isEmpty then result else .ok .unknown
  let withoutNames (result : Except Failure Meaning) : Except Failure Meaning :=
    if named.isEmpty then result else misuse (name ++ "() takes no keyword arguments")
  if collectionNames.contains name then withoutNames do
    within name 0 1 count
    let items ← match arguments with
      | [] => .ok []
      | given :: _ => given.elements
    collect name items
  else if iteratorNames.contains name then withoutNames (iterate name arguments)
  else if failureNames.contains name then
    withoutNames (.ok (.object name (name ++ Datum.bracketed "(" (writtenAll arguments) ")")))
  else
    match name with
    | "int" =>
        if 2 < count then
          misuse ("int() takes at most 2 arguments (" ++ toString count ++ " given)")
        else refuseNames ["base"] (makeOf name arguments)
    | "str" => refuseNames ["object", "encoding", "errors"] (makeOf name arguments)
    | "float" | "bool" => withoutNames do
        within name 0 1 count
        makeOf name arguments
    | "dict" => do
        within name 0 1 count
        let entries ← match arguments with
          | [] => .ok []
          | given :: _ => toDictionary given
        let all ← insertEntries entries (named.map fun entry => (text entry.1, entry.2))
        .ok (.dictionary all)
    | "type" =>
        match arguments with
        | [given] => withoutNames (.ok given.classOf)
        | [_, _, _] => .ok .unknown
        | _ => misuse "type() takes 1 or 3 arguments"
    | "object" =>
        if arguments.isEmpty && named.isEmpty then .ok (.object "object" "<object object>")
        else misuse "object() takes no arguments"
    | "NoneType" =>
        if arguments.isEmpty && named.isEmpty then .ok null
        else misuse "NoneType takes no arguments"
    | "range" => withoutNames (rangeOf arguments)
    | "slice" => withoutNames do
        within name 1 3 count
        match arguments with
        | [last] => .ok (.slice null last null)
        | [first, last] => .ok (.slice first last null)
        | [first, last, step] => .ok (.slice first last step)
        | _ => .ok .unknown
    | "bytes" | "bytearray" =>
        match arguments, named with
        | [.datum (.text _)], [] => misuse "string argument without an encoding"
        | _, _ => .ok .unknown
    | "map" =>
        if count < 2 then misuse "map() must have at least two arguments."
        else withoutNames do
          (arguments.drop 1).forM fun given => discard given.elements
          .ok .unknown
    | "filter" => withoutNames do
        within name 2 2 count
        (arguments.drop 1).forM fun given => discard given.elements
        .ok .unknown
    | "classmethod" | "staticmethod" => withoutNames do
        within name 1 1 count
        .ok .unknown
    | _ => .ok .unknown

end DerivedQuery.Meaning
