import DerivedQuery.Proofs.Name.Snake
import DerivedQuery.Proofs.QueryName.Description

/-!
# Rendering descriptions

A description is written in snake style by joining its parts with underscores, or in camel style by
putting them side by side with capitals in front. Reading what was written gives back what was
described, provided that no word of a property belongs to the grammar.
-/

set_option autoImplicit false

namespace DerivedQuery

/-- A part as it is written. -/
def NamePart.text : NameStyle → NamePart → String
  | .camel, .word key => capitalize key
  | .snake, .word key => key
  | _, .number n => toString n
  | .camel, .property name => capitalize name
  | .snake, .property name => name

/-- A description as it is written. -/
def NameDescription.render (description : NameDescription) : NameStyle → String
  | .camel => description.verb.key ++ String.join (description.parts.map (NamePart.text .camel))
  | .snake => "_".intercalate (description.verb.key :: description.parts.map (NamePart.text .snake))

/-- The properties that can be written in a style. In camel style these are letters and digits with
a letter in front, which have to be the same after a capital was put in front and taken away again;
in snake style letters and digits between single underscores. -/
def PropertyForm (name : String) : NameStyle → Prop
  | .camel => (∃ c ∈ name.toList.head?, c.isAlpha = true) ∧
      (∀ c ∈ name.toList, c.isAlphanum = true) ∧ decapitalize (capitalize name) = name
  | .snake => ∀ piece ∈ splitWhen (· == '_') name.toList,
      piece ≠ [] ∧ ∀ c ∈ piece, c.isAlphanum = true

instance (name : String) : (style : NameStyle) → Decidable (PropertyForm name style)
  | .camel => decidable_of_iff (name.toList.head?.any Char.isAlpha = true ∧
      name.toList.all Char.isAlphanum = true ∧ decapitalize (capitalize name) = name)
      (by simp [PropertyForm, Option.any_eq_true])
  | .snake => decidable_of_iff ((splitWhen (· == '_') name.toList).all fun piece =>
      !piece.isEmpty && piece.all Char.isAlphanum) (by simp [PropertyForm])

def propertyWords (name : String) : NameStyle → List Word
  | .camel => camelWords name.toList
  | .snake => snakeWords name.toList

def NameDescription.properties (description : NameDescription) : List String :=
  (description.groups.flatMap fun group => group.map ClauseDescription.property) ++
    description.directed.map Prod.fst ++ description.undirected.toList

/-- The description can be written in a style: there are no empty groups, the number of a limit has
at most 4300 digits, and the properties have the right form and no word of the grammar. -/
structure NameDescription.Renderable (description : NameDescription) (style : NameStyle) :
    Prop where
  groups : ∀ group ∈ description.groups, group ≠ []
  digits : ∀ opener n, description.limit = some (opener, some n) → (toString n).length ≤ 4300
  forms : ∀ name ∈ description.properties, PropertyForm name style
  plain : ∀ name ∈ description.properties, ∀ word ∈ propertyWords name style,
    ¬ Reserved word.key

/-- A part that can be written in a style. -/
def NamePart.Writable (style : NameStyle) : NamePart → Prop
  | .word key => 2 ≤ key.toList.length ∧ key.toList.all Char.isLower = true
  | .number _ => True
  | .property name => PropertyForm name style ∧ ∀ word ∈ propertyWords name style,
      ¬ Reserved word.key

theorem toList_text_number (style : NameStyle) (n : Nat) :
    ((NamePart.number n).text style).toList = Nat.toDigits 10 n := by
  cases style <;> simp [NamePart.text]

theorem not_reserved_of_keys {words others : List Word}
    (same : words.map Word.key = others.map Word.key) (plain : ∀ word ∈ others, ¬ Reserved word.key) :
    ∀ word ∈ words, ¬ Reserved word.key := by
  intro word member
  have inKeys : word.key ∈ others.map Word.key := same ▸ List.mem_map_of_mem member
  obtain ⟨other, inside, isKey⟩ := List.mem_map.mp inKeys
  exact isKey ▸ plain other inside

theorem snake_partSpells {part : NamePart} (writable : part.Writable .snake) :
    PartSpells .snake part
      (wordsOfPieces true (splitWhen (· == '_') (part.text .snake).toList)) := by
  cases part with
  | word key =>
      obtain ⟨long, small⟩ := writable
      have lower := List.all_eq_true.mp small
      have nonempty : key.toList ≠ [] := by
        rintro empty
        rw [empty] at long
        exact absurd long (by decide)
      have letters : ∀ c ∈ key.toList, c.isAlpha = true := fun c member =>
        isAlpha_of_isLower (lower c member)
      rw [NamePart.text, splitWhen_alphanum fun c member => isAlphanum_of_isLower (lower c member),
        wordsOfPieces, scan_letters nonempty letters]
      refine .word ?_
      rw [key_of_small lower, String.ofList_toList]
  | number n =>
      have alphanum : ∀ c ∈ Nat.toDigits 10 n, c.isAlphanum = true := fun c member =>
        isAlphanum_of_isDigit (toDigits_isDigit n c member)
      rw [toList_text_number, splitWhen_alphanum alphanum, wordsOfPieces,
        scan_digits Nat.toDigits_ne_nil (toDigits_isDigit n)]
      exact .number rfl
  | property name =>
      obtain ⟨form, plain⟩ := writable
      obtain ⟨nonempty, joined⟩ := joinProperty_wordsOfPieces form
      rw [String.ofList_toList] at joined
      exact .property nonempty joined
        (not_reserved_of_keys (keys_wordsOfPieces name.toList) plain)

/-- In camel style a word of the grammar has a capital in front and small letters behind it. -/
theorem camel_toList_word {key : String} (writable : (NamePart.word key).Writable .camel) :
    ∃ c d rest, ((NamePart.word key).text .camel).toList = c :: d :: rest ∧ c.isUpper = true ∧
      (∀ e ∈ d :: rest, e.isLower = true) ∧ key = String.ofList (c.toLower :: d :: rest) := by
  obtain ⟨long, small⟩ := writable
  have lower := List.all_eq_true.mp small
  obtain ⟨c, d, rest, chars⟩ : ∃ c d rest, key.toList = c :: d :: rest := by
    match isKey : key.toList, long with
    | c :: d :: rest, _ => exact ⟨c, d, rest, rfl⟩
  rw [chars] at lower
  obtain ⟨lowerFirst, lowerRest⟩ := List.forall_mem_cons.mp lower
  obtain ⟨upper, sameSmall, -, kept⟩ := toUpper_of_isAlpha (isAlpha_of_isLower lowerFirst)
  refine ⟨c.toUpper, d, rest, ?_, upper, lowerRest, ?_⟩
  · simp [NamePart.text, capitalize, capitalizeChars, chars]
  · rw [sameSmall, kept lowerFirst, ← chars, String.ofList_toList]

theorem camel_toList_property {name : String} (form : PropertyForm name .camel) :
    ∃ c rest, ((NamePart.property name).text .camel).toList = c :: rest ∧ c.isUpper = true ∧
      (∀ d ∈ rest, d.isAlphanum = true) ∧
      (camelWords (c :: rest)).map Word.key = (camelWords name.toList).map Word.key := by
  obtain ⟨⟨c, isHead, alpha⟩, alphanum, restored⟩ := form
  obtain ⟨rest, chars⟩ := List.head?_eq_some_iff.mp isHead
  rw [chars] at alphanum
  have alphanumRest := (List.forall_mem_cons.mp alphanum).2
  have text : ((NamePart.property name).text .camel).toList = c.toUpper :: rest := by
    simp [NamePart.text, capitalize, capitalizeChars, chars]
  have restoredChars : decapitalizeChars (c.toUpper :: rest) = c :: rest := by
    rw [← chars, ← restored, decapitalize, String.toList_ofList]
    exact congrArg decapitalizeChars text.symm
  exact ⟨c.toUpper, rest, text, (toUpper_of_isAlpha alpha).1, alphanumRest,
    chars ▸ keys_capitalized alpha alphanumRest restoredChars⟩

theorem camel_partSpells {part : NamePart} (writable : part.Writable .camel) :
    PartSpells .camel part (camelWords (part.text .camel).toList) := by
  cases part with
  | word key =>
      obtain ⟨c, d, rest, text, upper, lower, isKey⟩ := camel_toList_word writable
      have ascii : ∀ e ∈ c :: d :: rest, IsAscii e := List.forall_mem_cons.mpr
        ⟨isAscii_of_isUpper upper, fun e member => isAscii_of_isLower (lower e member)⟩
      rw [text, camelWords_capitalized upper lower]
      refine .word ?_
      rw [Word.key_ofList ascii, List.map_cons, map_toLower lower, ← isKey]
  | number n =>
      rw [toList_text_number, camelWords_digits Nat.toDigits_ne_nil (toDigits_isDigit n)]
      exact .number rfl
  | property name =>
      obtain ⟨form, plain⟩ := writable
      obtain ⟨c, rest, text, upper, alphanum, keys⟩ := camel_toList_property form
      have alphanumAll : ∀ d ∈ c :: rest, d.isAlphanum = true := List.forall_mem_cons.mpr
        ⟨isAlphanum_of_isUpper upper, alphanum⟩
      obtain ⟨nonempty, joined⟩ := joinProperty_camelWords (List.cons_ne_nil c rest) alphanumAll
      rw [text]
      refine .property nonempty ?_ (not_reserved_of_keys keys plain)
      rw [joined, ← text, String.ofList_toList]
      exact form.2.2

end DerivedQuery
