import DerivedQuery.Log.Template
import DerivedQuery.Number.Rounded

/-!
# Conversions of arguments

Every conversion of a template makes a text of one argument and lays it out: texts are cut at the
precision, whole numbers get at least as many digits as the precision says, and other numbers are
rounded to it. The text is then filled up to the width, at its left end unless a flag says
otherwise.
-/

set_option autoImplicit false

namespace DerivedQuery

/-- What a place asks of the text of its argument, with the width and the precision found. -/
structure Layout where
  flags : List Char
  width : Nat := 0
  precision : Option Nat := none
  leftAligned : Bool := false
  deriving DecidableEq, Repr

namespace Layout

/-- Is a flag given? -/
def has (layout : Layout) (flag : Char) : Bool := layout.flags.contains flag

/-- A text filled up with blanks. -/
def fillText (layout : Layout) (text : List Char) : List Char :=
  let missing := List.replicate (layout.width - text.length) ' '
  if layout.leftAligned then text ++ missing else missing ++ text

/-- The sign of a number: none is written before a positive one unless a flag asks for it. -/
def sign (layout : Layout) (negative : Bool) : List Char :=
  if negative then ['-'] else if layout.has '+' then ['+'] else if layout.has ' ' then [' '] else []

/-- A number with its sign and the mark of its base filled up with blanks, or with zeros before its
digits. -/
def fillNumber (layout : Layout) (negative : Bool) (base digits : List Char) : List Char :=
  let head := layout.sign negative ++ base
  if layout.has '0' && !layout.leftAligned then
    head ++ List.replicate (layout.width - head.length - digits.length) '0' ++ digits
  else layout.fillText (head ++ digits)

end Layout

/-- Every character outside ASCII is written by its code. -/
def Text.ascii (text : List Char) : List Char :=
  text.flatMap fun c => if c.toNat < 0x80 then [c] else Text.codeEscape c.toNat

namespace Datum

/-- The size of a double rounded towards zero, with its sign. -/
def truncated : Double → Except TemplateFault Int
  | .nan => .error .wholeOfNaN
  | .infinite _ => .error .wholeOfInfinity
  | .finite negative e f =>
      let size : Int := Double.unitsOf e.val f.val / Int.pow 2 1074
      .ok (if negative then -size else size)

/-- A number as a whole one, rounded towards zero. -/
def toWhole (conversion : Char) : Datum → Except TemplateFault Int
  | .boolean b => .ok (if b then 1 else 0)
  | .integer n => .ok n
  | .double d => truncated d
  | .foreign (.decimal value) =>
      .ok ((value.digits * Nat.pow 10 value.scale.toNat / Nat.pow 10 (-value.scale).toNat : Nat) : Int)
  | d => .error (.notReal conversion d.qualifiedTypeName)

/-- A datum that is a whole number. -/
def whole (conversion : Char) : Datum → Except TemplateFault Int
  | .boolean b => .ok (if b then 1 else 0)
  | .integer n => .ok n
  | d => .error (.notWhole conversion d.qualifiedTypeName)

/-- A number as a double. -/
def toDouble : Datum → Except TemplateFault Double
  | .boolean b => .ok (Double.ofInt (if b then 1 else 0))
  | .integer n =>
      match Double.ofInt n with
      | .infinite _ => .error .doubleOutOfRange
      | d => .ok d
  | .double d => .ok d
  | .foreign (.decimal value) =>
      .ok (Double.ofRatio false (value.digits * Nat.pow 10 value.scale.toNat)
        (Nat.pow 10 (-value.scale).toNat))
  | d => .error (.notNumber d.qualifiedTypeName)

/-- A character given as a text or by its code. -/
def character : Datum → Except TemplateFault Char
  | .text s =>
      match s.toList with
      | [c] => .ok c
      | _ => .error .notCharacter
  | .boolean b => .ok (Char.ofNat (if b then 1 else 0))
  | .integer n =>
      if n < 0 ∨ 0x110000 ≤ n then .error .characterOutOfRange
      else .ok (Char.ofNat n.toNat)
  | _ => .error .notCharacter

end Datum

namespace Layout

/-- A text, cut at the precision. -/
def writeText (layout : Layout) (text : List Char) : List Char :=
  layout.fillText <|
    match layout.precision with
    | none => text
    | some length => text.take length

/-- A whole number in a base with a mark of its own. -/
def writeWhole (layout : Layout) (base : Nat) (mark : List Char) (n : Int) : List Char :=
  let digits := Nat.toDigits base n.natAbs
  let missing := layout.precision.getD 0 - digits.length
  layout.fillNumber (n < 0) (if layout.has '#' then mark else [])
    (List.replicate missing '0' ++ digits)

/-- A double, where `write` lays out a size with the precision. -/
def writeDouble (layout : Layout) (write : Nat → Nat → String) (d : Double) : List Char :=
  match d with
  | .nan => layout.fillNumber false [] "nan".toList
  | .infinite negative => layout.fillNumber negative [] "inf".toList
  | .finite negative e f =>
      layout.fillNumber negative []
        (write (layout.precision.getD 6) (Double.unitsOf e.val f.val)).toList

/-- The text of an argument as a conversion asks for it; `position` is the place of the conversion
in the template. -/
def convert (layout : Layout) (conversion : Char) (position : Nat) (argument : Datum) :
    Except TemplateFault (List Char) :=
  let capitals (text : List Char) : List Char := text.map Char.toUpper
  let style : RoundedStyle := ⟨"e", layout.has '#'⟩
  match conversion with
  | 's' => .ok (layout.writeText argument.plainText.toList)
  | 'r' => .ok (layout.writeText argument.written.toList)
  | 'a' => .ok (layout.writeText (Text.ascii argument.written.toList))
  | 'd' | 'i' | 'u' => (argument.toWhole conversion).map (layout.writeWhole 10 [])
  | 'o' => (argument.whole conversion).map (layout.writeWhole 8 ['0', 'o'])
  | 'x' => (argument.whole conversion).map (layout.writeWhole 16 ['0', 'x'])
  | 'X' => (argument.whole conversion).map fun n =>
      capitals (layout.writeWhole 16 ['0', 'x'] n)
  | 'e' => argument.toDouble.map (layout.writeDouble style.scientific)
  | 'E' => argument.toDouble.map fun d => capitals (layout.writeDouble style.scientific d)
  | 'f' => argument.toDouble.map (layout.writeDouble style.fixed)
  | 'F' => argument.toDouble.map fun d => capitals (layout.writeDouble style.fixed d)
  | 'g' => argument.toDouble.map (layout.writeDouble style.general)
  | 'G' => argument.toDouble.map fun d => capitals (layout.writeDouble style.general d)
  | 'c' => argument.character.map fun c => layout.fillText [c]
  | _ => .error (.unknownConversion conversion position)

end Layout

end DerivedQuery
