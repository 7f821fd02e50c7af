import DerivedQuery.Text.LetterTable

/-!
# Small and capital letters

Lowering a text replaces each capital by its small form. Two capitals need more than a table entry:
the capital I with a dot becomes two characters, and the capital sigma becomes the final small sigma
at the end of a word. On ASCII text lowering is the usual letter by letter map.
-/

set_option autoImplicit false

namespace DerivedQuery.Text

/-- Is the character a capital? -/
def isCapital (c : Char) : Bool :=
  if c.toNat < 0x80 then c.isUpper else capitalSpans.any fun span => span.holds c.toNat

/-- The small form of one character, standing on its own. -/
def smallForm (c : Char) : List Char :=
  if c.toNat < 0x80 then [c.toLower]
  else if c = 'İ' then ['i', '\u0307']
  else
    match smallFormOffsets.find? fun entry => entry.1.holds c.toNat with
    | some entry => [Char.ofNat (c.toNat + entry.2).toNat]
    | none => [c]

/-- Does the character have a case? -/
def isCased (c : Char) : Bool :=
  if c.toNat < 0x80 then c.isAlpha else casedSpans.any fun span => span.holds c.toNat

/-- Is the character passed over when the letters around a sigma are examined? -/
def isCaseIgnorable (c : Char) : Bool :=
  Span.anyHolds caseIgnorableSpans c.toNat

/-- Is the first character that is not passed over a cased one? -/
def meetsCased (cs : List Char) : Bool :=
  ((cs.dropWhile isCaseIgnorable).head?.map isCased).getD false

/-- A capital sigma ends a word when a cased character comes before it and none comes after it. The
characters before it are given nearest first. -/
def endsWord (before after : List Char) : Bool :=
  meetsCased before && !meetsCased after

/-- Lowers the characters that follow `before`, which is given nearest first. -/
def lowerAfter (before : List Char) : List Char → List Char
  | [] => []
  | c :: rest =>
      (if c = 'Σ' then [if endsWord before rest then 'ς' else 'σ'] else smallForm c) ++
        lowerAfter (c :: before) rest

/-- A text with every capital replaced by its small form. -/
def lower (text : String) : String :=
  String.ofList (lowerAfter [] text.toList)

/-- The ASCII capital of a character, where it has one; the small i without a dot shares the capital
of the dotted one, and the long s that of the round one. -/
def asciiCapital (c : Char) : Char :=
  if c = 'ı' then 'I' else if c = 'ſ' then 'S' else c.toUpper

/-- Names in ASCII capitals are looked up through this form of a text. -/
def asciiCapitals (text : String) : String :=
  String.ofList (text.toList.map asciiCapital)

end DerivedQuery.Text
