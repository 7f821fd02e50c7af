import DerivedQuery.Text.Printable

/-!
# Quoted texts

A quoted text is closed by the mark that opens it. Inside, the mark itself and the backslash carry a
backslash, line feed, carriage return and tab have letters of their own, and every other character
that is not printable is written by its code in the shortest of three fixed widths.
-/

set_option autoImplicit false

namespace DerivedQuery.Text

/-- The hexadecimal digit of a number below sixteen, in small letters. -/
def hexDigit (n : Nat) : Char :=
  if n < 10 then Char.ofNat (48 + n) else Char.ofNat (87 + n)

/-- The last `width` hexadecimal digits of a number, most significant first. -/
def hexDigits : Nat → Nat → List Char
  | 0, _ => []
  | width + 1, n => hexDigits width (n / 16) ++ [hexDigit (n % 16)]

/-- A text is quoted with apostrophes, unless it contains one and no quotation mark. -/
def quoteMark (cs : List Char) : Char :=
  if cs.contains '\'' && !cs.contains '"' then '"' else '\''

/-- The escape of a character by its code. -/
def codeEscape (code : Nat) : List Char :=
  if code < 0x100 then ['\\', 'x'] ++ hexDigits 2 code
  else if code < 0x10000 then ['\\', 'u'] ++ hexDigits 4 code
  else ['\\', 'U'] ++ hexDigits 8 code

/-- One character inside a text that is quoted with `mark`; `plain` says which characters need no
escape. -/
def quotedChar (plain : Char → Bool) (mark c : Char) : List Char :=
  if c = mark || c = '\\' then ['\\', c]
  else if c = '\n' then ['\\', 'n']
  else if c = '\r' then ['\\', 'r']
  else if c = '\t' then ['\\', 't']
  else if plain c then [c]
  else codeEscape c.toNat

/-- The characters between their marks. -/
def quotedBy (plain : Char → Bool) (cs : List Char) : List Char :=
  quoteMark cs :: (cs.flatMap (quotedChar plain (quoteMark cs)) ++ [quoteMark cs])

/-- The quoted form of a text. -/
def quoted (text : String) : String :=
  String.ofList (quotedBy isPrintable text.toList)

/-- The quoted form of a byte string: each byte stands for the character of that code, and only
printable ASCII stands for itself. -/
def quotedBytes (bytes : List UInt8) : String :=
  String.ofList (quotedBy (fun c => 0x20 ≤ c.toNat && c.toNat < 0x7f)
    (bytes.map fun b => Char.ofNat b.toNat))

end DerivedQuery.Text
