import DerivedQuery.Name.Word

/-!
# Property names

The words of a property are joined again in the spelling of the method name. In camel style the
property starts with a small letter, unless it starts with an acronym.
-/

set_option autoImplicit false

namespace DerivedQuery

/-- Lowers the first character, unless the first two are capitals. -/
def decapitalizeChars : List Char → List Char
  | [] => []
  | [c] => Text.smallForm c
  | c :: d :: rest =>
      if Text.isCapital c && Text.isCapital d then c :: d :: rest
      else Text.smallForm c ++ d :: rest

/-- Lowers the first character of a name, unless it starts with an acronym. -/
def decapitalize (name : String) : String :=
  String.ofList (decapitalizeChars name.toList)

/-- The words with their joiners between them; the joiner of the first word is left out. -/
def joinWords : List Word → String
  | [] => ""
  | first :: others =>
      first.text ++ String.join (others.map fun word => word.joiner ++ word.text)

/-- The property that words spell in a style. -/
def joinProperty (style : NameStyle) (words : List Word) : String :=
  match style with
  | .camel => decapitalize (joinWords words)
  | .snake => joinWords words

end DerivedQuery
