/-!
# Base64

Three bytes become four characters of six bits each; a last group of one or two bytes is filled with
zero bits and marked by `=` signs up to the length four.
-/

set_option autoImplicit false

namespace DerivedQuery.Text

/-- The character for a number below sixty-four. -/
def sextetChar (n : Nat) : Char :=
  if n < 26 then Char.ofNat (65 + n)
  else if n < 52 then Char.ofNat (71 + n)
  else if n < 62 then Char.ofNat (n - 4)
  else if n = 62 then '+'
  else '/'

/-- The characters of a byte string in base64, padded. -/
def base64Chars : List UInt8 → List Char
  | [] => []
  | [a] =>
      let n := a.toNat * 16
      [sextetChar (n / 64), sextetChar (n % 64), '=', '=']
  | [a, b] =>
      let n := (a.toNat * 256 + b.toNat) * 4
      [sextetChar (n / 4096), sextetChar (n / 64 % 64), sextetChar (n % 64), '=']
  | a :: b :: c :: rest =>
      let n := (a.toNat * 256 + b.toNat) * 256 + c.toNat
      sextetChar (n / 262144) :: sextetChar (n / 4096 % 64) :: sextetChar (n / 64 % 64) ::
        sextetChar (n % 64) :: base64Chars rest

/-- The padded base64 text of a byte string. -/
def base64 (bytes : List UInt8) : String :=
  String.ofList (base64Chars bytes)

end DerivedQuery.Text
