import DerivedQuery.Datum
import DerivedQuery.Number.Notation
import DerivedQuery.Text.Quoted
import DerivedQuery.Time.Iso

/-!
# Written data

The text of a datum in messages and log lines. Texts are quoted, byte strings are quoted behind a
`b`, lists stand in square brackets, tuples in round ones with a comma behind a single element,
dictionaries in braces. Doubles are written with the fewest digits that read back. A store value
shows its type and its content, an object with fields its class and its fields.
-/

set_option autoImplicit false

namespace DerivedQuery

/-- Doubles are positional from 0.0001 up to sixteen digits, whole ones end in `.0`, and exponents
have a sign and at least two digits. -/
def Datum.decimalNotation : DecimalNotation where
  lowestPositional := -4
  pastPositional := 16
  wholeSuffix := ".0"
  exponentMark := "e"
  exponentWidth := 2
  nanText := "nan"
  infinityText := "inf"

namespace Moment

/-- The parts of a span as days, seconds of the last day and microseconds of the last second. -/
def writtenSpan (microseconds : Int) : String :=
  let days := microseconds.fdiv 86400000000
  let seconds := microseconds.fmod 86400000000 / 1000000
  let rest := microseconds.fmod 1000000
  let parts := (if days = 0 then [] else ["days=" ++ toString days]) ++
    (if seconds = 0 then [] else ["seconds=" ++ toString seconds]) ++
    (if rest = 0 then [] else ["microseconds=" ++ toString rest])
  "datetime.timedelta(" ++ ", ".intercalate (if parts.isEmpty then ["0"] else parts) ++ ")"

/-- A moment written as its fields; seconds and microseconds are left out when nothing but zeros
follows. -/
def written (m : Moment) : String :=
  let t := m.clock
  let late :=
    if t.microsecond.val ≠ 0 then [t.second.val, t.microsecond.val]
    else if t.second.val ≠ 0 then [t.second.val] else []
  let fields := [t.date.year, t.date.month, t.date.day, t.hour.val, t.minute.val] ++ late
  let zone := match m.offset with
    | none => []
    | some o =>
        if o.microseconds = 0 then ["tzinfo=datetime.timezone.utc"]
        else ["tzinfo=datetime.timezone(" ++ writtenSpan o.microseconds ++ ")"]
  "datetime.datetime(" ++ ", ".intercalate (fields.map toString ++ zone) ++ ")"

end Moment

namespace Datum

/-- The text of a double. -/
def doubleText (d : Double) : String := decimalNotation.doubleText d

/-- The text of a truth value. -/
def booleanText (b : Bool) : String := if b then "True" else "False"

/-- The text of a byte string. -/
def bytesText (content : List UInt8) : String := "b" ++ Text.quotedBytes content

/-- The parts in brackets, with commas between them. -/
def bracketed (opening : String) (parts : List String) (closing : String) : String :=
  opening ++ ", ".intercalate parts ++ closing

/-- The elements of a tuple; a single one is followed by a comma. -/
def tupleText : List String → String
  | [part] => "(" ++ part ++ ",)"
  | parts => bracketed "(" parts ")"

end Datum

namespace Value

/-- The text of the type of a value. -/
def typeText (value : Value) : String :=
  "<ValueType." ++ value.type.name ++ ": " ++ Text.quoted value.type.name ++ ">"

mutual

/-- The text of the content of a value. -/
def contentText : Value → String
  | .null => "None"
  | .boolean b => Datum.booleanText b
  | .long n => toString n
  | .double d => Datum.doubleText d
  | .string s => Text.quoted s
  | .blob content => Datum.bytesText content
  | .timestamp t => (Moment.ofUtc t).written
  | .entity properties => Datum.bracketed "\x7b" (writtenProperties properties) "\x7d"
  | .list elements => Datum.tupleText (writtenElements elements)

/-- The texts of the elements of a list, each with its type. -/
def writtenElements : List Value → List String
  | [] => []
  | element :: rest =>
      ("Value(type=" ++ element.typeText ++ ", value=" ++ contentText element ++ ")") ::
        writtenElements rest

/-- The texts of the properties of an entity, each with its type. -/
def writtenProperties : List (String × Value) → List String
  | [] => []
  | (name, value) :: rest =>
      (Text.quoted name ++ ": Value(type=" ++ value.typeText ++ ", value=" ++ contentText value ++
        ")") :: writtenProperties rest

end

/-- The text of a value inside a message. -/
def written (value : Value) : String :=
  "Value(type=" ++ value.typeText ++ ", value=" ++ value.contentText ++ ")"

/-- The text that a value stands for on its own. -/
def plainText (value : Value) : String :=
  "type=" ++ value.typeText ++ " value=" ++ value.contentText

end Value

namespace Decimal

/-- The digits of a decimal with the point at its place. -/
def plainText (d : Decimal) : String :=
  let digits := Nat.toDigits 10 d.digits
  let places := d.scale.natAbs
  if d.scale < 0 then
    let padded := List.replicate (places + 1 - digits.length) '0' ++ digits
    let whole := padded.length - places
    String.ofList (padded.take whole ++ '.' :: padded.drop whole)
  else String.ofList (digits ++ List.replicate places '0')

end Decimal

namespace ForeignObject

/-- The text of an object inside a message. -/
def written : ForeignObject → String
  | .range stop => "range(0, " ++ toString stop ++ ")"
  | .decimal value => "Decimal(" ++ Text.quoted value.plainText ++ ")"
  | .numbers frozen members =>
      let inner := Datum.bracketed "\x7b" (members.map toString) "\x7d"
      if members.isEmpty then (if frozen then "frozenset()" else "set()")
      else if frozen then "frozenset(" ++ inner ++ ")" else inner
  | .day date =>
      "datetime.date(" ++ ", ".intercalate ([date.year, date.month, date.day].map toString) ++ ")"
  | .days count =>
      "datetime.timedelta(" ++ (if count = 0 then "0" else "days=" ++ toString count) ++ ")"
  | .imaginary part => toString part ++ "j"
  | .classObject name => "<class " ++ Text.quoted name ++ ">"
  | .other name => "<" ++ name ++ ">"

/-- The text that an object stands for on its own: a decimal and a date are not named, and a span
shows its days and the time left. -/
def plainText : ForeignObject → String
  | .decimal value => value.plainText
  | .day date => date.text
  | .days count =>
      (if count = 0 then ""
        else toString count ++ (if count.natAbs = 1 then " day, " else " days, ")) ++ "0:00:00"
  | object => object.written

end ForeignObject

namespace Datum

mutual

/-- The text of a datum inside a message. -/
def written : Datum → String
  | .null => "None"
  | .boolean b => booleanText b
  | .integer n => toString n
  | .double d => doubleText d
  | .text s => Text.quoted s
  | .bytes content => bytesText content
  | .buffer content => "bytearray(" ++ bytesText content ++ ")"
  | .moment m => m.written
  | .dict entries => bracketed "\x7b" (writtenEntries entries) "\x7d"
  | .list items => bracketed "[" (writtenItems items) "]"
  | .tuple items => tupleText (writtenItems items)
  | .wrapped value => value.written
  | .record className contents => bracketed (className ++ "(") (writtenFields contents) ")"
  | .foreign object => object.written

/-- The texts of the elements of a sequence. -/
def writtenItems : List Datum → List String
  | [] => []
  | item :: rest => written item :: writtenItems rest

/-- The texts of the entries of a dictionary. -/
def writtenEntries : List (Datum × Datum) → List String
  | [] => []
  | (key, value) :: rest => (written key ++ ": " ++ written value) :: writtenEntries rest

/-- The texts of the fields of an object. -/
def writtenFields : List (String × Datum) → List String
  | [] => []
  | (name, value) :: rest => (name ++ "=" ++ written value) :: writtenFields rest

end

/-- The text that a datum stands for on its own: a text is not quoted, a moment is given by date and
time, a store value by its parts and an object without a store type as it stands for itself; all
else is written as inside a message. -/
def plainText : Datum → String
  | .text s => s
  | .moment m => m.text " "
  | .wrapped value => value.plainText
  | .foreign object => object.plainText
  | d => d.written

end Datum

end DerivedQuery
