import DerivedQuery.Meaning.Filling
import DerivedQuery.Sequence
import DerivedQuery.Text.LetterCase

/-!
# Methods

Texts can be cut, joined, replaced and filled, and written in other letters where these are ASCII;
dictionaries and sequences can be searched. What all other methods yield is unknown.
-/

set_option autoImplicit false

namespace DerivedQuery.Meaning

/-- Blanks of texts. -/
def isBlankChar (c : Char) : Bool := c.isWhitespace || c = '\x0b' || c = '\x0c'

/-- A text without some characters at its start. -/
def cutStart (drop : Char → Bool) (content : String) : String :=
  String.ofList (content.toList.dropWhile drop)

/-- A text without some characters at its end. -/
def cutEnd (drop : Char → Bool) (content : String) : String :=
  String.ofList ((content.toList.reverse.dropWhile drop).reverse)

/-- The texts among some meanings, where all of them are. -/
def contents? (items : List Meaning) : Option (List String) :=
  items.mapM fun item =>
    match item with
    | .datum (.text content) => some content
    | _ => none

/-- A text in which the letters that start words are capitals and all others are small. -/
def titled (startsWord : Bool) : List Char → List Char
  | [] => []
  | c :: rest =>
      (if startsWord then c.toUpper else c.toLower) :: titled (!c.isAlpha) rest

/-- A small letter for a capital, and the other way round. -/
def otherLetter (c : Char) : Char := if c.isUpper then c.toLower else c.toUpper

/-- A text filled up at its ends to a width. What is missing is shared by `share`, which says how
much of it comes first. -/
def padded (content : String) (width : Int) (fill : Char) (share : Nat → Nat) : Meaning :=
  let missing := width.toNat - content.length
  let first := share missing
  if mostElements < missing then .unknown
  else
    text (String.ofList (List.replicate first fill ++ content.toList ++
      List.replicate (missing - first) fill))

/-- What comes first of what is missing around a text in the middle. -/
def centred (content : String) (width : Int) (missing : Nat) : Nat :=
  let odd := missing % 2 == 1 && width.toNat % 2 == 1
  if content.length < width.toNat && odd then missing / 2 + 1 else missing / 2

/-- A number with zeros behind its sign up to a width. -/
def zeroFilled (content : String) (width : Int) : Meaning :=
  let signed := content.toList.head?.any fun c => c = '-' || c = '+'
  let sign := if signed then content.toList.take 1 else []
  let missing := width.toNat - content.length
  if mostElements < missing then .unknown
  else
    text (String.ofList (sign ++ List.replicate missing '0' ++ content.toList.drop sign.length))

/-- The pieces of a text between some others. -/
def between (separator : String) : List Meaning → Except Failure Meaning :=
  fun items =>
    let isText : Meaning → Bool
      | .datum (.text _) | .unknown => true
      | _ => false
    match items.zipIdx.find? fun entry => !isText entry.1 with
    | some (item, position) =>
        misuse ("sequence item " ++ toString position ++ ": expected str instance, " ++
          item.typeName ++ " found")
    | none =>
        .ok (match contents? items with
          | some pieces => text (separator.intercalate pieces)
          | none => .unknown)

/-- What a method of a text yields that takes no arguments, where it is known. -/
def plainTextMethod? (content name : String) : Option Meaning :=
  let isAscii := content.toList.all fun c => c.toNat < 0x80
  let ascii (letters : List Char → List Char) : Option Meaning :=
    if isAscii then some (text (String.ofList (letters content.toList))) else none
  match name with
  | "upper" => ascii (List.map Char.toUpper)
  | "lower" | "casefold" => ascii (List.map Char.toLower)
  | "swapcase" => ascii (List.map otherLetter)
  | "title" => ascii (titled true)
  | "capitalize" =>
      ascii fun cs => (cs.take 1).map Char.toUpper ++ (cs.drop 1).map Char.toLower
  | "strip" => some (text (cutEnd isBlankChar (cutStart isBlankChar content)))
  | "lstrip" => some (text (cutStart isBlankChar content))
  | "rstrip" => some (text (cutEnd isBlankChar content))
  | "split" =>
      let words := splitWhen isBlankChar content.toList
      some (.list ((words.filter (!·.isEmpty)).map fun word => text (String.ofList word)))
  | _ => none

/-- What a method of a text yields, where it is known. -/
def textMethod? (content name : String) (arguments : List Meaning) : Option Meaning :=
  match name, arguments with
  | _, [] => plainTextMethod? content name
  | "strip", [.datum (.text cut)] =>
      some (text (cutEnd cut.toList.contains (cutStart cut.toList.contains content)))
  | "lstrip", [.datum (.text cut)] => some (text (cutStart cut.toList.contains content))
  | "rstrip", [.datum (.text cut)] => some (text (cutEnd cut.toList.contains content))
  | "removeprefix", [.datum (.text start)] =>
      some (text (if start.toList.isPrefixOf content.toList
        then String.ofList (content.toList.drop start.length) else content))
  | "removesuffix", [.datum (.text finish)] =>
      some (text (if finish.toList.isSuffixOf content.toList
        then String.ofList (content.toList.take (content.length - finish.length)) else content))
  | "replace", [.datum (.text old), .datum (.text fresh)] =>
      if old.isEmpty then none else some (text (fresh.intercalate (content.splitOn old)))
  | "split", [.datum (.text separator)] =>
      if separator.isEmpty then none
      else some (.list ((content.splitOn separator).map text))
  | "startswith", [.datum (.text start)] =>
      some (truth (start.toList.isPrefixOf content.toList))
  | "endswith", [.datum (.text finish)] =>
      some (truth (finish.toList.isSuffixOf content.toList))
  | "ljust", [.datum (.integer width)] => some (padded content width ' ' fun _ => 0)
  | "rjust", [.datum (.integer width)] => some (padded content width ' ' id)
  | "center", [.datum (.integer width)] =>
      some (padded content width ' ' (centred content width))
  | "zfill", [.datum (.integer width)] => some (zeroFilled content width)
  | _, _ => none

/-- What a method of a meaning yields, where it is known. -/
def methodResult (receiver : Meaning) (name : String) (arguments : List Meaning)
    (named : List (String × Meaning)) : Except Failure Meaning :=
  match receiver, name, arguments with
  | .datum (.text content), "format", _ => PlaceArguments.fillText ⟨arguments, named⟩ content
  | .datum (.text content), "join", [items] =>
      match items.elements? with
      | some found => between content found
      | none => misuse "can only join an iterable"
  | .datum (.text content), _, _ =>
      .ok (if named.isEmpty then (textMethod? content name arguments).getD .unknown
        else .unknown)
  | .dictionary entries, "keys", [] => .ok (.iterator "dict_keys" (entries.map Prod.fst))
  | .dictionary entries, "values", [] => .ok (.iterator "dict_values" (entries.map Prod.snd))
  | .dictionary entries, "items", [] =>
      .ok (.iterator "dict_items" (entries.map fun entry => .tuple [entry.1, entry.2]))
  | .dictionary entries, "copy", [] => .ok (.dictionary entries)
  | .dictionary entries, "get", [key] =>
      .ok (((entries.find? fun entry => entry.1.same key).map Prod.snd).getD null)
  | .dictionary entries, "get", [key, fallback] =>
      .ok (((entries.find? fun entry => entry.1.same key).map Prod.snd).getD fallback)
  | .dictionary entries, "pop", [key] =>
      match entries.find? fun entry => entry.1.same key with
      | some entry => .ok entry.2
      | none => .error (.expression (.missingKey key.written))
  | .set _ [item], "pop", [] => .ok item
  | .list items, "pop", [] =>
      match items.getLast? with
      | some item => .ok item
      | none => .error (.expression (.emptyPop))
  | .builtinClass _, "__class_getitem__", [index] | .form _, "__getitem__", [index] =>
      receiver.part index
  | .list items, "copy", [] => .ok (.list items)
  | .list items, "count", [item] | .tuple items, "count", [item] =>
      .ok (integer (items.countP item.same))
  | .list items, "index", [item] =>
      match items.findIdx? item.same with
      | some position => .ok (integer position)
      | none => .error (.expression (.badValue (item.written ++ " is not in list")))
  | .tuple items, "index", [item] =>
      match items.findIdx? item.same with
      | some position => .ok (integer position)
      | none => .error (.expression (.badValue "tuple.index(x): x not in tuple"))
  | _, _, _ => .ok .unknown

end DerivedQuery.Meaning
