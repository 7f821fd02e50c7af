import DerivedQuery.Datum.Key
import DerivedQuery.Datum.Written

/-!
# Message templates

A template is a text with places for arguments. A place is opened by a percent sign and closed by
the letter of a conversion; between them stand, all optional, a key in parentheses, flags, a width,
a precision behind a point, and a letter for the size of a number, which means nothing. An asterisk
instead of a width or a precision stands for an argument. Two percent signs side by side are one. A
template without arguments is taken as it is.
-/

set_option autoImplicit false

namespace DerivedQuery

/-- What is wrong with a template or its arguments. -/
inductive TemplateFault where
  | tooManyArguments
  | tooFewArguments
  | unfinished
  | unfinishedKey
  | noMapping
  | missingKey (key : String)
  | measureNotWhole
  | measureTooLarge (word : String)
  | widthTooLarge
  | precisionTooLarge
  | unknownConversion (conversion : Char) (position : Nat)
  | notReal (conversion : Char) (typeName : String)
  | notWhole (conversion : Char) (typeName : String)
  | notNumber (typeName : String)
  | notCharacter
  | characterOutOfRange
  | wholeOfNaN
  | wholeOfInfinity
  | doubleOutOfRange
  deriving DecidableEq, Repr

namespace TemplateFault

/-- The message for a fault. -/
def message : TemplateFault → String
  | .tooManyArguments => "not all arguments converted during string formatting"
  | .tooFewArguments => "not enough arguments for format string"
  | .unfinished => "incomplete format"
  | .unfinishedKey => "incomplete format key"
  | .noMapping => "format requires a mapping"
  | .missingKey key => Text.quoted key
  | .measureNotWhole => "* wants int"
  | .measureTooLarge word => "Python int too large to convert to C " ++ word
  | .widthTooLarge => "width too big"
  | .precisionTooLarge => "precision too big"
  | .unknownConversion conversion position =>
      let code := conversion.toNat
      let shown := if 31 ≤ code ∧ code ≤ 126 then conversion else '?'
      "unsupported format character '" ++ shown.toString ++ "' (0x" ++
        String.ofList (Nat.toDigits 16 code) ++ ") at index " ++ toString position
  | .notReal conversion typeName =>
      "%" ++ conversion.toString ++ " format: a real number is required, not " ++ typeName
  | .notWhole conversion typeName =>
      "%" ++ conversion.toString ++ " format: an integer is required, not " ++ typeName
  | .notNumber typeName => "must be real number, not " ++ typeName
  | .notCharacter => "%c requires int or char"
  | .characterOutOfRange => "%c arg not in range(0x110000)"
  | .wholeOfNaN => "cannot convert float NaN to integer"
  | .wholeOfInfinity => "cannot convert float infinity to integer"
  | .doubleOutOfRange => "int too large to convert to float"

end TemplateFault

/-- A width or a precision. -/
inductive Measure where
  | given (n : Nat)
  | argument
  deriving DecidableEq, Repr

/-- How the key of a place is written. -/
inductive PlaceKey where
  | absent
  | closed (key : String)
  | unclosed
  deriving DecidableEq, Repr

/-- A place for an argument. -/
structure Place where
  key : PlaceKey
  flags : List Char
  width : Option Measure
  precision : Option Measure
  /-- The letter of the conversion with its position; `none` when the template ends before it. -/
  conversion : Option (Char × Nat)
  deriving DecidableEq, Repr

namespace Place

/-- The characters up to the parenthesis that closes a key, and what follows it; `depth` parentheses
are open inside the key. -/
def closeKey (depth : Nat) : List Char → Option (List Char × List Char)
  | [] => none
  | ')' :: rest =>
      match depth with
      | 0 => some ([], rest)
      | depth + 1 => (closeKey depth rest).map fun found => (')' :: found.1, found.2)
  | '(' :: rest => (closeKey (depth + 1) rest).map fun found => ('(' :: found.1, found.2)
  | c :: rest => (closeKey depth rest).map fun found => (c :: found.1, found.2)

/-- A width or a precision, and what follows it. -/
def readMeasure : List Char → Option Measure × List Char
  | '*' :: rest => (some .argument, rest)
  | cs =>
      match cs.takeWhile Char.isDigit with
      | [] => (none, cs)
      | digits => (some (.given (Numeral.naturalValue digits)), cs.dropWhile Char.isDigit)

/-- A precision behind a point, and what follows it. A point alone stands for the precision zero. -/
def readPrecision : List Char → Option Measure × List Char
  | '.' :: rest =>
      let measure := readMeasure rest
      (some (measure.1.getD (.given 0)), measure.2)
  | cs => (none, cs)

/-- What follows a letter for the size of a number. -/
def dropSize : List Char → List Char
  | 'h' :: rest | 'l' :: rest | 'L' :: rest => rest
  | cs => cs

/-- The flags of a place. -/
def isFlag (c : Char) : Bool := ['-', '+', ' ', '#', '0'].contains c

/-- The part of a place behind its key, and what follows it, in a template of `total` characters. -/
def readBody (total : Nat) (key : PlaceKey) (cs : List Char) : Place × List Char :=
  let (width, afterWidth) := readMeasure (cs.dropWhile isFlag)
  let (precision, afterPrecision) := readPrecision afterWidth
  let place := Place.mk key (cs.takeWhile isFlag) width precision
  match dropSize afterPrecision with
  | [] => (place none, [])
  | c :: rest => (place (some (c, total - rest.length - 1)), rest)

/-- The place behind a percent sign, and what follows it. -/
def read (total : Nat) : List Char → Place × List Char
  | '(' :: rest =>
      match closeKey 0 rest with
      | none => (⟨.unclosed, [], none, none, none⟩, [])
      | some (key, rest) => readBody total (.closed (String.ofList key)) rest
  | cs => readBody total .absent cs

end Place

/-- A part of a template. -/
inductive TemplatePart where
  | plain (c : Char)
  | place (place : Place)
  deriving DecidableEq, Repr

/-- The parts of a template of `total` characters. -/
def templateParts (total : Nat) : List Char → List TemplatePart
  | [] => []
  | '%' :: '%' :: rest => .plain '%' :: templateParts total rest
  | '%' :: rest =>
      let found := Place.read total rest
      .place found.1 :: templateParts total (rest.drop (rest.length - found.2.length))
  | c :: rest => .plain c :: templateParts total rest
termination_by cs => cs.length
decreasing_by all_goals simp only [List.length_drop, List.length_cons]; omega

end DerivedQuery
