/-!
# Names of characters

Characters have names. Those of letters and digits say what they are, and those of marks are listed
in the order of the code points. Only characters in ASCII are named here, and letters of a name may
be small or capital.
-/

set_option autoImplicit false

namespace DerivedQuery.Text

/-- Names of characters one after the other, with the code point of the first one. -/
structure NameRun where
  start : Nat
  names : List String

/-- The names of marks in ASCII. -/
def markNames : List NameRun := [
  ⟨0x20,
    ("SPACE;EXCLAMATION MARK;QUOTATION MARK;NUMBER SIGN;DOLLAR SIGN;PERCENT SIGN;AMPERSAND;" ++
      "APOSTROPHE;LEFT PARENTHESIS;RIGHT PARENTHESIS;ASTERISK;PLUS SIGN;COMMA;HYPHEN-MINUS;" ++
      "FULL STOP;SOLIDUS").splitOn ";"⟩,
  ⟨0x3a,
    ("COLON;SEMICOLON;LESS-THAN SIGN;EQUALS SIGN;GREATER-THAN SIGN;QUESTION MARK;" ++
      "COMMERCIAL AT").splitOn ";"⟩,
  ⟨0x5b,
    ("LEFT SQUARE BRACKET;REVERSE SOLIDUS;RIGHT SQUARE BRACKET;CIRCUMFLEX ACCENT;LOW LINE;" ++
      "GRAVE ACCENT").splitOn ";"⟩,
  ⟨0x7b,
    ("LEFT CURLY BRACKET;VERTICAL LINE;RIGHT CURLY BRACKET;TILDE").splitOn ";"⟩]

/-- Other names of characters, most of which cannot be seen. -/
def otherNames : List (String × Nat) :=
  [("NULL", 0), ("NUL", 0), ("BACKSPACE", 8), ("CHARACTER TABULATION", 9), ("TAB", 9),
    ("LINE FEED", 10), ("NEW LINE", 10), ("LF", 10), ("FORM FEED", 12), ("CARRIAGE RETURN", 13),
    ("CR", 13), ("ESCAPE", 27), ("ESC", 27), ("DELETE", 127), ("DEL", 127)]

/-- The names of the digits. -/
def digitNames : List String :=
  "ZERO ONE TWO THREE FOUR FIVE SIX SEVEN EIGHT NINE".splitOn " "

/-- The code point of a name among a run of them. -/
def NameRun.find? (run : NameRun) (name : String) : Option Nat :=
  (run.names.findIdx? (· == name)).map fun position => run.start + position

/-- The letter or digit that is named by a kind and its own name. -/
def letterNamed? (kind : List String) (name : String) : Option Nat :=
  match kind, name.toList with
  | ["LATIN", "CAPITAL", "LETTER"], [c] => if c.isUpper then some c.toNat else none
  | ["LATIN", "SMALL", "LETTER"], [c] => if c.isUpper then some c.toLower.toNat else none
  | ["DIGIT"], _ => (digitNames.findIdx? (· == name)).map fun value => 0x30 + value
  | _, _ => none

/-- The character of a name. -/
def namedChar? (name : String) : Option Char :=
  let capitals := String.ofList (name.toList.map Char.toUpper)
  let words := capitals.splitOn " "
  let other? := (otherNames.find? fun entry => entry.1 == capitals).map Prod.snd
  let code? := letterNamed? words.dropLast (words.getLastD "")
    <|> markNames.findSome? (·.find? capitals) <|> other?
  code?.map Char.ofNat

end DerivedQuery.Text
