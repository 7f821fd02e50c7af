/-!
# Variants of ASCII characters

Unicode has characters that differ from ASCII letters, digits and the low line only in their looks:
ligatures, raised letters, letters of special fonts, fullwidth forms. A name that is written
with them is the name that is written without.
-/

set_option autoImplicit false

namespace DerivedQuery.Text

/-- Variants of consecutive ASCII characters. -/
structure VariantSpan where
  first : Nat
  count : Nat
  /-- The ASCII character that the first of them stands for. -/
  plain : Char

/-- The characters that stand for one ASCII character each. -/
def variantSpans : List VariantSpan :=
  [⟨0xaa, 1, 'a'⟩, ⟨0xba, 1, 'o'⟩, ⟨0x17f, 1, 's'⟩, ⟨0x2b0, 1, 'h'⟩, ⟨0x2b2, 1, 'j'⟩,
    ⟨0x2b3, 1, 'r'⟩, ⟨0x2b7, 1, 'w'⟩, ⟨0x2b8, 1, 'y'⟩, ⟨0x2e1, 1, 'l'⟩, ⟨0x2e2, 1, 's'⟩,
    ⟨0x2e3, 1, 'x'⟩, ⟨0x1d2c, 1, 'A'⟩, ⟨0x1d2e, 1, 'B'⟩, ⟨0x1d30, 2, 'D'⟩, ⟨0x1d33, 8, 'G'⟩,
    ⟨0x1d3c, 1, 'O'⟩, ⟨0x1d3e, 1, 'P'⟩, ⟨0x1d3f, 1, 'R'⟩, ⟨0x1d40, 2, 'T'⟩, ⟨0x1d42, 1, 'W'⟩,
    ⟨0x1d43, 1, 'a'⟩, ⟨0x1d47, 1, 'b'⟩, ⟨0x1d48, 2, 'd'⟩, ⟨0x1d4d, 1, 'g'⟩, ⟨0x1d4f, 1, 'k'⟩,
    ⟨0x1d50, 1, 'm'⟩, ⟨0x1d52, 1, 'o'⟩, ⟨0x1d56, 1, 'p'⟩, ⟨0x1d57, 2, 't'⟩, ⟨0x1d5b, 1, 'v'⟩,
    ⟨0x1d62, 1, 'i'⟩, ⟨0x1d63, 1, 'r'⟩, ⟨0x1d64, 2, 'u'⟩, ⟨0x1d9c, 1, 'c'⟩, ⟨0x1da0, 1, 'f'⟩,
    ⟨0x1dbb, 1, 'z'⟩, ⟨0x2071, 1, 'i'⟩, ⟨0x207f, 1, 'n'⟩, ⟨0x2090, 1, 'a'⟩, ⟨0x2091, 1, 'e'⟩,
    ⟨0x2092, 1, 'o'⟩, ⟨0x2093, 1, 'x'⟩, ⟨0x2095, 1, 'h'⟩, ⟨0x2096, 4, 'k'⟩, ⟨0x209a, 1, 'p'⟩,
    ⟨0x209b, 2, 's'⟩, ⟨0x2102, 1, 'C'⟩, ⟨0x210a, 1, 'g'⟩, ⟨0x210b, 1, 'H'⟩, ⟨0x210c, 1, 'H'⟩,
    ⟨0x210d, 1, 'H'⟩, ⟨0x210e, 1, 'h'⟩, ⟨0x2110, 1, 'I'⟩, ⟨0x2111, 1, 'I'⟩, ⟨0x2112, 1, 'L'⟩,
    ⟨0x2113, 1, 'l'⟩, ⟨0x2115, 1, 'N'⟩, ⟨0x2119, 3, 'P'⟩, ⟨0x211c, 1, 'R'⟩, ⟨0x211d, 1, 'R'⟩,
    ⟨0x2124, 1, 'Z'⟩, ⟨0x2128, 1, 'Z'⟩, ⟨0x212a, 1, 'K'⟩, ⟨0x212c, 2, 'B'⟩, ⟨0x212f, 1, 'e'⟩,
    ⟨0x2130, 2, 'E'⟩, ⟨0x2133, 1, 'M'⟩, ⟨0x2134, 1, 'o'⟩, ⟨0x2139, 1, 'i'⟩, ⟨0x2145, 1, 'D'⟩,
    ⟨0x2146, 2, 'd'⟩, ⟨0x2148, 2, 'i'⟩, ⟨0x2160, 1, 'I'⟩, ⟨0x2164, 1, 'V'⟩, ⟨0x2169, 1, 'X'⟩,
    ⟨0x216c, 1, 'L'⟩, ⟨0x216d, 2, 'C'⟩, ⟨0x216f, 1, 'M'⟩, ⟨0x2170, 1, 'i'⟩, ⟨0x2174, 1, 'v'⟩,
    ⟨0x2179, 1, 'x'⟩, ⟨0x217c, 1, 'l'⟩, ⟨0x217d, 2, 'c'⟩, ⟨0x217f, 1, 'm'⟩, ⟨0x2c7c, 1, 'j'⟩,
    ⟨0x2c7d, 1, 'V'⟩, ⟨0xa7f2, 1, 'C'⟩, ⟨0xa7f3, 1, 'F'⟩, ⟨0xa7f4, 1, 'Q'⟩, ⟨0xfe33, 1, '_'⟩,
    ⟨0xfe34, 1, '_'⟩, ⟨0xfe4d, 1, '_'⟩, ⟨0xfe4e, 1, '_'⟩, ⟨0xfe4f, 1, '_'⟩, ⟨0xff10, 10, '0'⟩,
    ⟨0xff21, 26, 'A'⟩, ⟨0xff3f, 1, '_'⟩, ⟨0xff41, 26, 'a'⟩, ⟨0x107a5, 1, 'q'⟩, ⟨0x1d400, 26, 'A'⟩,
    ⟨0x1d41a, 26, 'a'⟩, ⟨0x1d434, 26, 'A'⟩, ⟨0x1d44e, 7, 'a'⟩, ⟨0x1d456, 18, 'i'⟩,
    ⟨0x1d468, 26, 'A'⟩, ⟨0x1d482, 26, 'a'⟩, ⟨0x1d49c, 1, 'A'⟩, ⟨0x1d49e, 2, 'C'⟩, ⟨0x1d4a2, 1, 'G'⟩,
    ⟨0x1d4a5, 2, 'J'⟩, ⟨0x1d4a9, 4, 'N'⟩, ⟨0x1d4ae, 8, 'S'⟩, ⟨0x1d4b6, 4, 'a'⟩, ⟨0x1d4bb, 1, 'f'⟩,
    ⟨0x1d4bd, 7, 'h'⟩, ⟨0x1d4c5, 11, 'p'⟩, ⟨0x1d4d0, 26, 'A'⟩, ⟨0x1d4ea, 26, 'a'⟩,
    ⟨0x1d504, 2, 'A'⟩, ⟨0x1d507, 4, 'D'⟩, ⟨0x1d50d, 8, 'J'⟩, ⟨0x1d516, 7, 'S'⟩, ⟨0x1d51e, 26, 'a'⟩,
    ⟨0x1d538, 2, 'A'⟩, ⟨0x1d53b, 4, 'D'⟩, ⟨0x1d540, 5, 'I'⟩, ⟨0x1d546, 1, 'O'⟩, ⟨0x1d54a, 7, 'S'⟩,
    ⟨0x1d552, 26, 'a'⟩, ⟨0x1d56c, 26, 'A'⟩, ⟨0x1d586, 26, 'a'⟩, ⟨0x1d5a0, 26, 'A'⟩,
    ⟨0x1d5ba, 26, 'a'⟩, ⟨0x1d5d4, 26, 'A'⟩, ⟨0x1d5ee, 26, 'a'⟩, ⟨0x1d608, 26, 'A'⟩,
    ⟨0x1d622, 26, 'a'⟩, ⟨0x1d63c, 26, 'A'⟩, ⟨0x1d656, 26, 'a'⟩, ⟨0x1d670, 26, 'A'⟩,
    ⟨0x1d68a, 26, 'a'⟩, ⟨0x1d7ce, 10, '0'⟩, ⟨0x1d7d8, 10, '0'⟩, ⟨0x1d7e2, 10, '0'⟩,
    ⟨0x1d7ec, 10, '0'⟩, ⟨0x1d7f6, 10, '0'⟩, ⟨0x1fbf0, 10, '0'⟩]

/-- The characters that stand for several ASCII letters. -/
def ligatures : List (Nat × String) :=
  [(0x132, "IJ"), (0x133, "ij"), (0x1c7, "LJ"), (0x1c8, "Lj"), (0x1c9, "lj"), (0x1ca, "NJ"),
    (0x1cb, "Nj"), (0x1cc, "nj"), (0x1f1, "DZ"), (0x1f2, "Dz"), (0x1f3, "dz"), (0x2161, "II"),
    (0x2162, "III"), (0x2163, "IV"), (0x2165, "VI"), (0x2166, "VII"), (0x2167, "VIII"),
    (0x2168, "IX"), (0x216a, "XI"), (0x216b, "XII"), (0x2171, "ii"), (0x2172, "iii"),
    (0x2173, "iv"), (0x2175, "vi"), (0x2176, "vii"), (0x2177, "viii"), (0x2178, "ix"),
    (0x217a, "xi"), (0x217b, "xii"), (0xfb00, "ff"), (0xfb01, "fi"), (0xfb02, "fl"),
    (0xfb03, "ffi"), (0xfb04, "ffl"), (0xfb05, "st"), (0xfb06, "st")]

/-- The ASCII characters that a character stands for; any other stands for itself. -/
def plainChars (c : Char) : List Char :=
  let code := c.toNat
  if code < 0x80 then [c]
  else
    match variantSpans.find? fun span => span.first ≤ code && code < span.first + span.count with
    | some span => [Char.ofNat (span.plain.toNat + (code - span.first))]
    | none =>
        match ligatures.find? fun entry => entry.1 == code with
        | some entry => entry.2.toList
        | none => [c]

/-- A text without variants of ASCII characters. -/
def withoutVariants (cs : List Char) : List Char := cs.flatMap plainChars

end DerivedQuery.Text
