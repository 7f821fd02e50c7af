import DerivedQuery.Text.Base64

/-!
# Reading base64

Four characters hold three bytes, and the signs at the end say how many bytes the last group has.
Reading a text in base64 gives back the bytes.
-/

set_option autoImplicit false

namespace DerivedQuery.Text

/-- The number that a character stands for; anything that is no such character counts as zero. -/
def sextetValue (c : Char) : Nat :=
  ((List.range 64).find? fun n => sextetChar n == c).getD 0

/-- The bytes of a text in base64, read in groups of four characters. -/
def base64Bytes : List Char → List UInt8
  | w :: x :: y :: z :: rest =>
      let n := ((sextetValue w * 64 + sextetValue x) * 64 + sextetValue y) * 64 + sextetValue z
      if y = '=' then [UInt8.ofNat (n / 65536)]
      else if z = '=' then [UInt8.ofNat (n / 65536), UInt8.ofNat (n / 256 % 256)]
      else UInt8.ofNat (n / 65536) :: UInt8.ofNat (n / 256 % 256) :: UInt8.ofNat (n % 256) ::
        base64Bytes rest
  | _ => []

theorem sextetValue_sextetChar {n : Nat} (small : n < 64) : sextetValue (sextetChar n) = n := by
  have all : ∀ n < 64, sextetValue (sextetChar n) = n := by decide +kernel
  exact all n small

theorem sextetChar_ne_pad {n : Nat} (small : n < 64) : sextetChar n ≠ '=' := by
  have all : ∀ n < 64, sextetChar n ≠ '=' := by decide +kernel
  exact all n small

theorem sextetValue_pad : sextetValue '=' = 0 := by decide +kernel

theorem ofNat_eq {byte : UInt8} {n : Nat} (same : n = byte.toNat) : UInt8.ofNat n = byte := by
  rw [same, UInt8.ofNat_toNat]

theorem base64Bytes_base64Chars (bytes : List UInt8) : base64Bytes (base64Chars bytes) = bytes := by
  induction bytes using base64Chars.induct with
  | case1 => rfl
  | case2 a =>
      have bound := a.toNat_lt
      have first : a.toNat * 16 / 64 < 64 := by omega
      have second : a.toNat * 16 % 64 < 64 := by omega
      rw [base64Chars, base64Bytes]
      rw [if_pos rfl, sextetValue_sextetChar first, sextetValue_sextetChar second, sextetValue_pad]
      congr 1
      exact ofNat_eq (by omega)
  | case3 a b =>
      have boundA := a.toNat_lt
      have boundB := b.toNat_lt
      have first : (a.toNat * 256 + b.toNat) * 4 / 4096 < 64 := by omega
      have second : (a.toNat * 256 + b.toNat) * 4 / 64 % 64 < 64 := by omega
      have third : (a.toNat * 256 + b.toNat) * 4 % 64 < 64 := by omega
      rw [base64Chars, base64Bytes]
      rw [if_neg (sextetChar_ne_pad third), if_pos rfl, sextetValue_sextetChar first,
        sextetValue_sextetChar second, sextetValue_sextetChar third, sextetValue_pad]
      congr 1
      · exact ofNat_eq (by omega)
      · congr 1
        exact ofNat_eq (by omega)
  | case4 a b c rest ih =>
      have boundA := a.toNat_lt
      have boundB := b.toNat_lt
      have boundC := c.toNat_lt
      rw [base64Chars, base64Bytes]
      generalize isNumber : (a.toNat * 256 + b.toNat) * 256 + c.toNat = n
      have first : n / 262144 < 64 := by omega
      have second : n / 4096 % 64 < 64 := by omega
      have third : n / 64 % 64 < 64 := by omega
      have fourth : n % 64 < 64 := by omega
      rw [if_neg (sextetChar_ne_pad third), if_neg (sextetChar_ne_pad fourth),
        sextetValue_sextetChar first, sextetValue_sextetChar second,
        sextetValue_sextetChar third, sextetValue_sextetChar fourth, ih]
      congr 1
      · exact ofNat_eq (by omega)
      · congr 1
        · exact ofNat_eq (by omega)
        · congr 1
          exact ofNat_eq (by omega)

theorem base64_injective {bytes others : List UInt8} (same : base64 bytes = base64 others) :
    bytes = others := by
  have chars := congrArg String.toList same
  simp only [base64, String.toList_ofList] at chars
  rw [← base64Bytes_base64Chars bytes, chars, base64Bytes_base64Chars]

end DerivedQuery.Text
