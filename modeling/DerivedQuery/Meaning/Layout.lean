import DerivedQuery.Meaning.Operation
import DerivedQuery.Text.DecimalDigit

/-!
# Layouts of values

A layout says how the text of a text or a number is made and filled up to a width: by which
character and at which end, with which sign, in which base, with what between groups of digits, and
to which precision. Everything is optional, but stands in a fixed order. What a layout may ask for
depends on the type of the value.
-/

set_option autoImplicit false

namespace DerivedQuery

/-- Where a text stands within its width. -/
inductive Alignment where
  | start
  | finish
  | centre
  /-- What is missing is filled in behind the sign. -/
  | inner
  deriving DecidableEq, Repr

/-- A layout of a value. -/
structure ValueLayout where
  fill : Char := ' '
  alignment : Alignment
  sign : Option Char := none
  /-- Zero has no sign. -/
  unsignedZero : Bool := false
  /-- The base is marked, or the point is always written. -/
  full : Bool := false
  width : Nat := 0
  separator : Option Char := none
  precision : Option Nat := none
  /-- What text is made of the value. -/
  style : Char
  deriving DecidableEq, Repr

namespace ValueLayout

/-- The fault of a layout that a value cannot have. -/
def refuse {α : Type} (message : String) : Except Failure α :=
  .error (.expression (.badValue message))

/-! ## Reading -/

/-- The alignment that a mark stands for. -/
def alignment? (c : Char) : Option Alignment :=
  match c with
  | '<' => some .start
  | '>' => some .finish
  | '^' => some .centre
  | '=' => some .inner
  | _ => none

/-- The character that fills and the alignment at the head of a layout, and what follows. -/
def splitAlignment : List Char → Option Char × Option Alignment × List Char
  | c :: d :: rest =>
      match alignment? d, alignment? c with
      | some found, _ => (some c, some found, rest)
      | none, some found => (none, some found, d :: rest)
      | none, none => (none, none, c :: d :: rest)
  | [c] =>
      match alignment? c with
      | some found => (none, some found, [])
      | none => (none, none, [c])
  | [] => (none, none, [])

/-- Is a mark at the head of a layout, and what follows it? -/
def skip (mark : Char) (cs : List Char) : Bool × List Char :=
  if cs.head? = some mark then (true, cs.drop 1) else (false, cs)

/-- A whole number at the head of a layout, if there is one, and what follows. -/
def splitMeasure (cs : List Char) : Except Failure (Option Nat × List Char) :=
  let digits := cs.takeWhile Text.isDigit
  let size := Text.digitsValue digits
  if digits.isEmpty then .ok (none, cs)
  else if Nat.pow 2 63 ≤ size then refuse "Too many decimal digits in format string"
  else .ok (some size, cs.drop digits.length)

/-- A character in a message: one that cannot be seen is told by its code. -/
def shownChar (c : Char) : String :=
  if 32 < c.toNat ∧ c.toNat < 128 then c.toString
  else "\\x" ++ String.ofList (Nat.toDigits 16 c.toNat)

/-- What stands between groups of digits, and what follows it. -/
def splitSeparator (cs : List Char) : Except Failure (Option Char × List Char) :=
  let (comma, afterComma) := skip ',' cs
  let (line, rest) := skip '_' afterComma
  if line && (comma || rest.head? = some ',') then refuse "Cannot specify both ',' and '_'."
  else .ok (if comma then some ',' else if line then some '_' else none, rest)

/-- The precision behind a point, if there is one, and what follows. -/
def splitPrecision (cs : List Char) : Except Failure (Option Nat × List Char) := do
  let (pointed, rest) := skip '.' cs
  if !pointed then .ok (none, cs)
  else
    match ← splitMeasure rest with
    | (none, _) => refuse "Format specifier missing precision"
    | found => .ok found

/-- May groups of digits be told apart by a separator in a style? -/
def separates (separator style : Char) : Bool :=
  ['d', 'e', 'f', 'g', 'E', 'G', '%', 'F', '\x00'].contains style ||
    (separator = '_' && ['b', 'o', 'x', 'X'].contains style)

/-- The layout that a text describes, for values of a type with a style and an alignment of its own.
-/
def read (typeName : String) (style : Char) (alignment : Alignment) (written : List Char) :
    Except Failure ValueLayout := do
  let (fill, given, rest) := splitAlignment written
  let signed := rest.head?.any [' ', '+', '-'].contains
  let (sign, rest) := if signed then (rest.head?, rest.drop 1) else (none, rest)
  let (unsignedZero, rest) := skip 'z' rest
  let (full, rest) := skip '#' rest
  let (zero, rest) := if fill.isSome then (false, rest) else skip '0' rest
  let (width, rest) ← splitMeasure rest
  let (separator, rest) ← splitSeparator rest
  let (precision, rest) ← splitPrecision rest
  if 1 < rest.length then
    refuse ("Invalid format specifier '" ++ String.ofList written ++ "' for object of type '" ++
      typeName ++ "'")
  else
    let style := rest.head?.getD style
    let own := if zero && alignment = .finish then Alignment.inner else alignment
    match separator.filter fun mark => !separates mark style with
    | some mark =>
        refuse ("Cannot specify '" ++ mark.toString ++ "' with '" ++ shownChar style ++ "'.")
    | none =>
        .ok {
          fill := fill.getD (if zero then '0' else ' ')
          alignment := given.getD own
          sign, unsignedZero, full, separator, precision, style
          width := width.getD 0 }

/-- The fault of a style that values of a type do not have. -/
def unknownStyle {α : Type} (layout : ValueLayout) (typeName : String) : Except Failure α :=
  refuse ("Unknown format code '" ++ shownChar layout.style ++ "' for object of type '" ++
    typeName ++ "'")

/-! ## Writing -/

/-- A text filled up to the width. It consists of a `head` and a body between which what is missing
may be filled in. -/
def fillUp (layout : ValueLayout) (head body : List Char) : List Char :=
  let missing := layout.width - (head.length + body.length)
  let filling (count : Nat) := List.replicate count layout.fill
  match layout.alignment with
  | .start => head ++ body ++ filling missing
  | .finish => filling missing ++ head ++ body
  | .centre => filling (missing / 2) ++ head ++ body ++ filling (missing - missing / 2)
  | .inner => head ++ filling missing ++ body

/-- Digits, the last one first, in groups with a separator between them, and with zeros up to a
width. There are fewer groups than `bound`. -/
def groups (size : Nat) (separator : Char) : Nat → List Char → Int → List Char
  | 0, digits, _ => digits
  | bound + 1, digits, width =>
      let count := min size (max (max digits.length width.toNat) 1)
      let group := digits.take count ++ List.replicate (count - digits.length) '0'
      let rest := digits.drop count
      if rest.isEmpty ∧ width ≤ count then group
      else group ++ separator :: groups size separator bound rest (width - count - 1)

/-- Digits in groups as the layout asks for, with zeros up to a width. -/
def grouped (layout : ValueLayout) (digits : List Char) (width : Nat) : List Char :=
  match layout.separator with
  | none => List.replicate (width - digits.length) '0' ++ digits
  | some separator =>
      let size := if ['b', 'o', 'x', 'X'].contains layout.style then 4 else 3
      (groups size separator (digits.length + width + 1) digits.reverse width).reverse

/-- The sign of a number. -/
def signOf (layout : ValueLayout) (negative : Bool) : List Char :=
  if negative then ['-']
  else
    match layout.sign with
    | some '+' => ['+']
    | some ' ' => [' ']
    | _ => []

/-- A number of a sign, the mark of its base, digits and what follows them. -/
def number (layout : ValueLayout) (negative : Bool) (mark digits rest : List Char) : List Char :=
  let head := layout.signOf negative ++ mark
  let widened := layout.fill = '0' && layout.alignment = .inner && !digits.isEmpty
  let width := if widened then layout.width - head.length - rest.length else 0
  let body := if digits.isEmpty then rest else layout.grouped digits width ++ rest
  layout.fillUp head body

/-- A text in a layout. -/
def writeText (layout : ValueLayout) (content : List Char) : Except Failure (List Char) :=
  let within := " not allowed in string format specifier"
  if layout.style ≠ 's' then layout.unknownStyle "str"
  else if layout.sign = some ' ' then refuse ("Space" ++ within)
  else if layout.sign.isSome then refuse ("Sign" ++ within)
  else if layout.unsignedZero then refuse ("Negative zero coercion (z)" ++ within)
  else if layout.full then refuse ("Alternate form (#)" ++ within)
  else if layout.alignment = .inner then refuse ("'=' alignment" ++ within)
  else .ok (layout.fillUp [] (content.take (layout.precision.getD content.length)))

/-- The base of a style for whole numbers, and the mark of the base. -/
def base (style : Char) : Nat × List Char :=
  match style with
  | 'b' => (2, ['0', 'b'])
  | 'o' => (8, ['0', 'o'])
  | 'x' | 'X' => (16, ['0', 'x'])
  | _ => (10, [])

/-- The character of a code in a layout. -/
def writeCode (layout : ValueLayout) (n : Int) : Except Failure Meaning :=
  let within := " not allowed with integer format specifier 'c'"
  if layout.sign.isSome then refuse ("Sign" ++ within)
  else if layout.full then refuse ("Alternate form (#)" ++ within)
  else if n < -Int.pow 2 63 ∨ Int.pow 2 63 ≤ n then .error (.template (.measureTooLarge "long"))
  else if n < 0 ∨ 0x110000 ≤ n then .error (.template .characterOutOfRange)
  else if n.toNat.isValidChar then
    .ok (Meaning.text (String.ofList (layout.number false [] [] [Char.ofNat n.toNat])))
  else .ok .unknown

/-- A whole number in a layout. -/
def writeWhole (layout : ValueLayout) (n : Int) : Except Failure Meaning :=
  let within := " not allowed in integer format specifier"
  let capitals := fun cs : List Char => if layout.style = 'X' then cs.map Char.toUpper else cs
  let (base, mark) := base layout.style
  if layout.precision.isSome then refuse ("Precision" ++ within)
  else if layout.unsignedZero then refuse ("Negative zero coercion (z)" ++ within)
  else if layout.style = 'c' then layout.writeCode n
  else
    let shown := layout.number (n < 0) (capitals (if layout.full then mark else []))
      (capitals (Nat.toDigits base n.natAbs)) []
    .ok (Meaning.text (String.ofList shown))

/-- A size with a number of significant digits, and with one digit behind the point at least. -/
def pointed (style : RoundedStyle) (precision units : Nat) : String :=
  let count := max 1 precision
  let (digits, exponent) := Rounded.significant units count
  let shown := if style.full then digits else RoundedStyle.trimmed digits
  let layout := style.notationUpTo (count - 1)
  if layout.lowestPositional ≤ exponent ∧ exponent < layout.pastPositional then
    { layout with wholeSuffix := if style.full then "." else ".0" }.positional shown exponent
  else layout.scientific shown exponent

/-- The text of a double without its sign. -/
def size (layout : ValueLayout) (d : Double) : String :=
  let style : RoundedStyle := ⟨"e", layout.full⟩
  match d with
  | .nan => "nan"
  | .infinite _ => "inf"
  | .finite _ e f =>
      let units := Double.unitsOf e.val f.val
      match layout.style, layout.precision with
      | 'e', precision | 'E', precision => style.scientific (precision.getD 6) units
      | 'f', precision | 'F', precision | '%', precision => style.fixed (precision.getD 6) units
      | 'g', precision | 'G', precision | 'n', precision => style.general (precision.getD 6) units
      | _, some precision => pointed style precision units
      | _, none =>
          { Datum.decimalNotation with barePoint := layout.full }.doubleText (.finite false e f)

/-- Is a double negative? -/
def isNegative : Double → Bool
  | .nan => false
  | .infinite negative | .finite negative _ _ => negative

/-- A double in a layout. -/
def writeReal (layout : ValueLayout) (d : Double) : Except Failure Meaning :=
  if layout.precision.any (Nat.pow 2 31 ≤ ·) then refuse "precision too big"
  else if layout.precision.any (Meaning.mostElements < ·) then .ok .unknown
  else
    let scaled? := if layout.style = '%' then d.product? (Double.ofInt 100) else some d
    match scaled? with
    | none => .ok .unknown
    | some scaled =>
        let capital := ['E', 'F', 'G'].contains layout.style
        let plain := (layout.size scaled).toList
        let shown := if capital then plain.map Char.toUpper else plain
        let isZero := shown.all fun c => !('1' ≤ c && c ≤ '9')
        let negative := isNegative d && !(layout.unsignedZero && isZero)
        let digits := shown.takeWhile Char.isDigit
        let rest := shown.drop digits.length ++ (if layout.style = '%' then ['%'] else [])
        .ok (Meaning.text (String.ofList (layout.number negative [] digits rest)))

end ValueLayout

namespace Meaning

/-- The styles of whole numbers. -/
def wholeStyles : List Char := ['b', 'c', 'd', 'n', 'o', 'x', 'X']

/-- The styles of all numbers. -/
def realStyles : List Char := ['e', 'E', 'f', 'F', 'g', 'G', 'n', '%']

/-- A text as a layout asks for. What is very wide is not worked out. -/
def laidOutText (layout : ValueLayout) (content : String) : Except Failure Meaning :=
  if mostElements < layout.width then .ok .unknown
  else (layout.writeText content.toList).map fun shown => text (String.ofList shown)

/-- A whole number as a layout asks for. -/
def laidOutWhole (layout : ValueLayout) (typeName : String) (n : Int) : Except Failure Meaning :=
  if mostElements < layout.width then .ok .unknown
  else if wholeStyles.contains layout.style then layout.writeWhole n
  else if realStyles.contains layout.style then do
    let d ← nearestDouble n
    layout.writeReal d
  else layout.unknownStyle typeName

/-- A double as a layout asks for. -/
def laidOutReal (layout : ValueLayout) (d : Double) : Except Failure Meaning :=
  if mostElements < layout.width then .ok .unknown
  else if realStyles.contains layout.style || layout.style = '\x00' then layout.writeReal d
  else layout.unknownStyle "float"

/-- A value as a layout asks for. Only texts and numbers can be laid out. -/
def laidOut (value : Meaning) (written : String) : Except Failure Meaning :=
  let read (style : Char) (alignment : Alignment) :=
    ValueLayout.read value.typeName style alignment written.toList
  match value, value.numeric? with
  | .datum (.text content), _ => do
      let layout ← read 's' .start
      laidOutText layout content
  | _, some (.whole n) => do
      let layout ← read 'd' .finish
      laidOutWhole layout value.typeName n
  | _, some (.real d) => do
      let layout ← read '\x00' .finish
      laidOutReal layout d
  | _, none =>
      if value.isComplex then .ok .unknown
      else .error (.expression (.misuse
        ("unsupported format string passed to " ++ value.typeName ++ ".__format__")))

end Meaning

end DerivedQuery
