import DerivedQuery.Sequence
import DerivedQuery.Text.DecimalDigit
import DerivedQuery.Text.LetterCase

/-!
# Words of a method name

A name is written in one of two styles. In camel style capitals start words, an acronym is a word,
and so is a number. In snake style underscores separate words, and inside a piece between
underscores letters and digits are told apart but capitals are not. In both styles characters other
than ASCII letters and decimal digits belong to no word.
-/

set_option autoImplicit false

namespace DerivedQuery

/-- The two spellings of a method name. -/
inductive NameStyle where
  | camel
  | snake
  deriving DecidableEq, Repr

/-- A word of a method name: its spelling and what separates it from the word before it. -/
structure Word where
  text : String
  joiner : String := ""
  deriving DecidableEq, Repr

namespace Word

/-- Words are compared by their small letters. -/
def key (word : Word) : String := Text.lower word.text

end Word

namespace NameStyle

/-- A name is in snake style when there is an underscore between its other characters. -/
def ofChars (name : List Char) : NameStyle :=
  let inner := ((name.dropWhile (· == '_')).reverse.dropWhile (· == '_')).reverse
  if inner.contains '_' then .snake else .camel

/-- The style of a name. -/
def ofName (name : String) : NameStyle := ofChars name.toList

end NameStyle

/-- Does the text start with a small ASCII letter? -/
def startsSmall (cs : List Char) : Bool :=
  (cs.head?.map Char.isLower).getD false

/-- The length of the camel word at the head of a text. A capital followed by small letters starts a
word with them. Several capitals in a row form an acronym, which leaves its last capital to small
letters that follow. Small letters and digits form words of their own. -/
def camelWordLength : List Char → Nat
  | [] => 0
  | c :: rest =>
      if c.isUpper then
        let capitals := rest.takeWhile Char.isUpper
        let after := rest.dropWhile Char.isUpper
        if !startsSmall after then capitals.length + 1
        else if capitals.isEmpty then (after.takeWhile Char.isLower).length + 1
        else capitals.length
      else if c.isLower then (rest.takeWhile Char.isLower).length + 1
      else if Text.isDigit c then (rest.takeWhile Text.isDigit).length + 1
      else 0

/-- The length of the word at the head of a text in snake style: letters of either case, or digits.
-/
def snakeWordLength : List Char → Nat
  | [] => 0
  | c :: rest =>
      if c.isAlpha then (rest.takeWhile Char.isAlpha).length + 1
      else if Text.isDigit c then (rest.takeWhile Text.isDigit).length + 1
      else 0

/-- The words of a name in camel style. -/
def camelWords (name : List Char) : List Word :=
  (scan camelWordLength name).map fun cs => ⟨String.ofList cs, ""⟩

/-- The words of the pieces between underscores. The first word of a piece is joined to the words
before it, if `started` says that there are any. -/
def wordsOfPieces (started : Bool) : List (List Char) → List Word
  | [] => []
  | piece :: pieces =>
      match scan snakeWordLength piece with
      | [] => wordsOfPieces started pieces
      | first :: others =>
          ⟨String.ofList first, if started then "_" else ""⟩ ::
            (others.map fun cs => ⟨String.ofList cs, ""⟩) ++ wordsOfPieces true pieces

/-- The words of a name in snake style. -/
def snakeWords (name : List Char) : List Word :=
  wordsOfPieces false (splitWhen (· == '_') name)

/-- The words of a name in its own style. -/
def splitWords (name : String) : List Word :=
  match NameStyle.ofName name with
  | .camel => camelWords name.toList
  | .snake => snakeWords name.toList

/-- The groups of words between the words with this key. -/
def splitOn (keyword : String) (words : List Word) : List (List Word) :=
  splitWhen (fun word => word.key == keyword) words

/-- Do the keys of the last words spell the keyword? -/
def endsWith (words : List Word) (keyword : List String) : Bool :=
  keyword.length ≤ words.length &&
    (words.drop (words.length - keyword.length)).map Word.key == keyword

end DerivedQuery
