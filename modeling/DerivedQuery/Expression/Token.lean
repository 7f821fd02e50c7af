import DerivedQuery.Expression.Escape
import DerivedQuery.Number.Numeral
import DerivedQuery.Sequence
import DerivedQuery.Text.NameChar
import DerivedQuery.Text.Variant

/-!
# Tokens of expressions

The text of an expression is cut into names, numbers, quoted texts and marks; words with a meaning
of their own are marks. A quoted text may have letters before it that say how it is to be read, and
three marks on either side let it go on over several lines. Lines end where no bracket is open, and
an expression fills one line.
-/

set_option autoImplicit false

namespace DerivedQuery

/-- A token of an expression. -/
inductive Token where
  | name (name : String)
  | integer (n : Nat)
  | real (d : Double)
  /-- A number times the imaginary unit. -/
  | imaginary (size : Double)
  | text (content : List Char)
  | bytes (content : List UInt8)
  /-- A text with places for values; escapes have no meaning in it where it is `raw`. -/
  | template (raw : Bool) (content : List Char)
  | symbol (mark : String)
  deriving DecidableEq, Repr

namespace Token

/-- Words that are no names. -/
def reservedWords : List String :=
  ["None", "True", "False", "and", "as", "assert", "async", "await", "break", "class", "continue",
    "def", "del", "elif", "else", "except", "finally", "for", "from", "global", "if", "import",
    "in", "is", "lambda", "nonlocal", "not", "or", "pass", "raise", "return", "try", "while",
    "with", "yield"]

/-- The words that may follow a number without a blank. -/
def wordsAfterNumber : List String := ["and", "else", "for", "if", "in", "is", "or", "not"]

/-- The marks, longer ones before those that start like them. -/
def marks : List String :=
  ["...", "**", "//", "<<", ">>", "<=", ">=", "==", "!=", ":=", "+", "-", "*", "/", "%", "@", "&",
    "|", "^", "~", "<", ">", "(", ")", "[", "]", "\x7b", "\x7d", ",", ":", ".", "="]

/-- A character of names, or one that no token but a name can have. -/
def looksLikeName (c : Char) : Bool := c.isAlphanum || c = '_' || 0x80 ≤ c.toNat

/-- May a number end before a text? -/
def endsNumber (rest : List Char) : Bool :=
  !(rest.head?.any looksLikeName) || wordsAfterNumber.any fun word => word.toList.isPrefixOf rest

/-- Digits of a base at the head of a text, with single low lines between them, and what follows.
Fails where a low line stands elsewhere. -/
def splitDigits (base : Nat) (cs : List Char) : Option (List Char × List Char) :=
  let run := cs.takeWhile fun c => (Escape.digit? base c).isSome || c = '_'
  let pieces := splitWhen (· == '_') run
  if run ≠ [] ∧ pieces.any List.isEmpty then none
  else some (pieces.flatten, cs.drop run.length)

/-- A whole number of a base, behind the two characters that name the base, and what follows. -/
def readPrefixed (base : Nat) (cs : List Char) : Option (Token × List Char) := do
  let (digits, rest) ← splitDigits base (if cs.head? = some '_' then cs.drop 1 else cs)
  if digits = [] ∨ !endsNumber rest then none
  else (Escape.number? base digits).map fun n => (.integer n, rest)

/-- An exponent at the head of a text, empty where there is none, and what follows it. Fails where
the mark of an exponent is followed by something else than digits or the end of the number. -/
def splitExponent (cs : List Char) : Option (List Char × List Char) :=
  match cs with
  | [] => some ([], [])
  | mark :: rest =>
      if mark ≠ 'e' ∧ mark ≠ 'E' then some ([], cs)
      else
        let sign := if rest.head? = some '-' ∨ rest.head? = some '+' then rest.take 1 else []
        let after := rest.drop sign.length
        if after.head?.any Char.isDigit then do
          let (digits, rest) ← splitDigits 10 after
          some ('e' :: sign ++ digits, rest)
        else if sign = [] ∧ endsNumber cs then some ([], cs)
        else none

/-- The number that decimal digits and an exponent are, and what of a rest follows it: the rest may
start with the mark of an imaginary number. A whole number other than zero does not start with a zero
and has a limited number of digits. -/
def ofDecimalParts (pointed : Bool) (whole fraction exponent rest : List Char) :
    Option (Token × List Char) := do
  let isReal := pointed || exponent ≠ []
  let size ← Numeral.unsigned? false (whole ++ '.' :: fraction ++ exponent)
  if rest.head? = some 'j' ∨ rest.head? = some 'J' then
    if endsNumber (rest.drop 1) then some (.imaginary size, rest.drop 1) else none
  else if !endsNumber rest then none
  else if isReal then some (.real size, rest)
  else
    let n := Numeral.naturalValue whole
    if (whole.head? = some '0' ∧ n ≠ 0) ∨ Numeral.maxDigits < whole.length then none
    else some (.integer n, rest)

/-- A decimal number at the head of a text, and what follows it. -/
def readDecimal (cs : List Char) : Option (Token × List Char) := do
  let (whole, afterWhole) ← splitDigits 10 cs
  let pointed := afterWhole.head? = some '.'
  let (fraction, afterFraction) ←
    if pointed then splitDigits 10 (afterWhole.drop 1) else some ([], afterWhole)
  let (exponent, rest) ← splitExponent afterFraction
  ofDecimalParts pointed whole fraction exponent rest

/-- A number at the head of a text, and what follows it. -/
def readNumber (cs : List Char) : Option (Token × List Char) :=
  match cs with
  | '0' :: 'x' :: rest | '0' :: 'X' :: rest => readPrefixed 16 rest
  | '0' :: 'o' :: rest | '0' :: 'O' :: rest => readPrefixed 8 rest
  | '0' :: 'b' :: rest | '0' :: 'B' :: rest => readPrefixed 2 rest
  | _ => readDecimal cs

/-- A character that opens and closes quoted texts. -/
def isQuoteMark (c : Char) : Bool := c.toNat = 34 || c.toNat = 39

/-- The content of a quoted text up to its closing marks, and what follows them. A backslash keeps
the character behind it from closing the text. Only a text between `threefold` marks goes on in the
next line. -/
def readQuoted (mark : Char) (threefold : Bool) : List Char → Option (List Char × List Char)
  | [] => none
  | '\\' :: c :: rest =>
      (readQuoted mark threefold rest).map fun found => ('\\' :: c :: found.1, found.2)
  | c :: rest =>
      if c = mark ∧ !threefold then some ([], rest)
      else if c = mark ∧ rest.take 2 = [mark, mark] then some ([], rest.drop 2)
      else if c = '\n' ∧ !threefold then none
      else (readQuoted mark threefold rest).map fun found => (c :: found.1, found.2)

/-- The letters that may stand before a quoted text, in small letters. -/
def quotePrefixes : List String := ["", "r", "b", "u", "f", "br", "rb", "fr", "rf"]

/-- The letters before a quoted text at the head of a text, if there is one. -/
def quotePrefix? (cs : List Char) : Option (List Char) :=
  let letters := (cs.take 3).takeWhile fun c => !isQuoteMark c
  let plain := letters.map Char.toLower
  if quotePrefixes.contains (String.ofList plain) && (cs.drop letters.length).head?.any isQuoteMark
  then some plain
  else none

/-- A quoted text at the head of a text behind its letters, and what follows it. -/
def readText (letters : List Char) (cs : List Char) : Option (Token × List Char) := do
  let mark ← cs.head?
  let threefold := cs.take 3 = [mark, mark, mark]
  let (content, rest) ← readQuoted mark threefold (cs.drop (if threefold then 3 else 1))
  let raw := letters.contains 'r'
  if letters.contains 'f' then some (.template raw content, rest)
  else if letters.contains 'b' then
    let isPlain := content.all fun c => c.toNat < 0x80
    let bytes ←
      if !raw then Escape.bytes? content
      else if isPlain then some (content.map fun c => UInt8.ofNat c.toNat) else none
    some (.bytes bytes, rest)
  else do
    let plain ← if raw then some content else Escape.text? content
    some (.text plain, rest)

/-- The name or the word at the head of a text, and what follows it. A name that is written with
variants of characters is the name without them. -/
def readName (cs : List Char) : Option (Token × List Char) :=
  let word := cs.takeWhile looksLikeName
  if !Text.isName word then none
  else
    let name := String.ofList word
    let token :=
      if reservedWords.contains name then .symbol name
      else .name (String.ofList (Text.withoutVariants word))
    some (token, cs.drop word.length)

/-- The token at the head of a text that does not start with a blank, and what follows it. -/
def read (cs : List Char) : Option (Token × List Char) := do
  let c ← cs.head?
  match quotePrefix? cs with
  | some letters => readText letters (cs.drop letters.length)
  | none =>
      if c.isDigit || (c = '.' && (cs.drop 1).head?.any Char.isDigit) then readNumber cs
      else if looksLikeName c then readName cs
      else do
        let found ← marks.find? fun mark => mark.toList.isPrefixOf cs
        some (.symbol found, cs.drop found.length)

/-- Blanks within a line. -/
def isBlank (c : Char) : Bool := c = ' ' || c = '\t' || c = '\x0c'

/-- The greatest number of brackets that may be open. -/
def maxDepth : Nat := 200

/-- The number of brackets that are open after a token. Fails where there are too many. -/
def depthAfter (depth : Nat) : Token → Option Nat
  | .symbol mark =>
      if mark = "(" ∨ mark = "[" ∨ mark = "\x7b" then
        if depth < maxDepth then some (depth + 1) else none
      else if mark = ")" ∨ mark = "]" ∨ mark = "\x7d" then some (depth - 1)
      else some depth
  | _ => some depth

/-- Does nothing but blanks and comments follow the line of an expression? The last line, where
nothing ends it, is empty, up to blanks that do not move its start. -/
def onlyBlankLines (cs : List Char) : Bool :=
  let lines := splitWhen (· == '\n') cs
  let blank := fun line : List Char =>
    let content := line.dropWhile isBlank
    content.isEmpty || content.head? = some '#'
  let last := lines.getLastD []
  lines.all blank &&
    (last.any (· = '#') || last.isEmpty || last.getLast? = some '\x0c')

/-- The tokens of the rest of a line, where `depth` brackets are open. Lines end within brackets,
and behind a backslash, like blanks. Every step takes at least one character, of which there are
fewer than `fuel`. -/
def readLine : Nat → Nat → List Char → Option (List Token)
  | 0, _, _ => none
  | _ + 1, _, [] => some []
  | fuel + 1, depth, c :: rest =>
      if isBlank c then readLine fuel depth rest
      else if c = '#' then readLine fuel depth (rest.dropWhile (· != '\n'))
      else if c = '\n' then
        if depth ≠ 0 then readLine fuel depth rest
        else if onlyBlankLines rest then some [] else none
      else if c = '\\' then
        if rest.head? = some '\n' ∧ rest.length ≠ 1 then readLine fuel depth (rest.drop 1) else none
      else do
        let (token, after) ← read (c :: rest)
        let opened ← depthAfter depth token
        (readLine fuel opened after).map fun tokens => token :: tokens

/-- A text with one kind of line ends. -/
def withPlainLines : List Char → List Char
  | [] => []
  | '\r' :: '\n' :: rest => '\n' :: withPlainLines rest
  | c :: rest => (if c = '\r' then '\n' else c) :: withPlainLines rest

/-- The line of an expression behind lines without content. It must not be indented: blanks are
counted in `column`, from the last form feed on. A `comment` goes on to the end of its line. -/
def firstLine? (comment : Bool) (column : Nat) : List Char → Option (List Char)
  | [] => some []
  | '\n' :: rest => firstLine? false 0 rest
  | '\\' :: '\n' :: rest =>
      if comment then firstLine? false 0 rest
      else if column = 0 then firstLine? false 0 rest else none
  | c :: rest =>
      if comment then firstLine? true 0 rest
      else if c = '#' then firstLine? true 0 rest
      else if c = '\x0c' then firstLine? false 0 rest
      else if isBlank c then firstLine? false (column + 1) rest
      else if column = 0 then some (c :: rest) else none

/-- The tokens of a text that goes on with an expression. -/
def ofText? (text : String) : Option (List Token) :=
  let cs := withPlainLines text.toList
  readLine (cs.length + 1) 0 cs

/-- The tokens of a text that is an expression by itself. -/
def ofWholeText? (text : String) : Option (List Token) := do
  let cs ← firstLine? false 0 (withPlainLines text.toList)
  readLine (cs.length + 1) 0 cs

end Token

end DerivedQuery
