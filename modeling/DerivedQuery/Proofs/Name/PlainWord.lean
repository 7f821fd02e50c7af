import DerivedQuery.Proofs.Name.Property
import DerivedQuery.Proofs.Name.Snake
import Mathlib.Data.List.Chain

/-!
# Plain words in both spellings

Plain words are small letters or digits. Written with underscores between them they are always read
back. Written side by side with capitals in front they are read back where no two neighbours are
both digits, and no two neighbours behind the first word are both single letters.
-/

set_option autoImplicit false

namespace DerivedQuery

/-- One or more small letters, or one or more digits. -/
structure PlainWord where
  text : String
  nonempty : text ≠ ""
  plain : (∀ c ∈ text.toList, c.isLower = true) ∨ ∀ c ∈ text.toList, c.isDigit = true

namespace PlainWord

def IsDigits (word : PlainWord) : Prop := ∀ c ∈ word.text.toList, c.isDigit = true

def IsLetter (word : PlainWord) : Prop :=
  word.text.length = 1 ∧ ∀ c ∈ word.text.toList, c.isLower = true

instance (word : PlainWord) : Decidable word.IsDigits :=
  decidable_of_iff (word.text.toList.all Char.isDigit = true) List.all_eq_true

instance (word : PlainWord) : Decidable word.IsLetter :=
  decidable_of_iff (word.text.length = 1 ∧ word.text.toList.all Char.isLower = true)
    (and_congr_right' List.all_eq_true)

/-- The plain word with this text. -/
def ofText? (text : String) : Option PlainWord :=
  if plain : text ≠ "" ∧
      (text.toList.all Char.isLower = true ∨ text.toList.all Char.isDigit = true) then
    some ⟨text, plain.1, plain.2.imp List.all_eq_true.mp List.all_eq_true.mp⟩
  else none

def snakeWord (word : PlainWord) : Word := ⟨word.text, "_"⟩

def camelWord (word : PlainWord) : Word := ⟨capitalize word.text, ""⟩

/-- The words with underscores between them. -/
def snakeSpelling (words : List PlainWord) : String :=
  "_".intercalate (words.map text)

/-- The first word followed by the others with capitals in front. -/
def camelSpelling (first : PlainWord) (others : List PlainWord) : String :=
  first.text ++ String.join (others.map fun word => capitalize word.text)

variable {word first : PlainWord} {words others : List PlainWord}

theorem toList_ne_nil (word : PlainWord) : word.text.toList ≠ [] := by
  intro empty
  exact word.nonempty (String.toList_eq_nil_iff.mp empty)

theorem isAlphanum (word : PlainWord) : ∀ c ∈ word.text.toList, c.isAlphanum = true := by
  intro c member
  cases word.plain with
  | inl letters => exact isAlphanum_of_isLower (letters c member)
  | inr digits => exact isAlphanum_of_isDigit (digits c member)

/-! ## Snake style -/

theorem scan_snake (word : PlainWord) :
    scan snakeWordLength word.text.toList = [word.text.toList] := by
  cases word.plain with
  | inl letters =>
      exact scan_letters word.toList_ne_nil fun c member => isAlpha_of_isLower (letters c member)
  | inr digits => exact scan_digits word.toList_ne_nil digits

theorem wordsOfPieces_plain (words : List PlainWord) :
    wordsOfPieces true (words.map fun word => word.text.toList) = words.map snakeWord := by
  induction words with
  | nil => rfl
  | cons word words ih =>
      rw [List.map_cons, wordsOfPieces, scan_snake]
      simp [ih, snakeWord]

theorem toList_snakeSpelling (words : List PlainWord) :
    (snakeSpelling words).toList = ['_'].intercalate (words.map fun word => word.text.toList) := by
  simp [snakeSpelling, String.toList_intercalate, Function.comp_def]

theorem splitWords_snake (more : others ≠ []) :
    NameStyle.ofName (snakeSpelling (first :: others)) = .snake ∧
      splitWords (snakeSpelling (first :: others)) =
        ⟨first.text, ""⟩ :: others.map snakeWord := by
  have chars := toList_snakeSpelling (first :: others)
  have style : NameStyle.ofName (snakeSpelling (first :: others)) = .snake := by
    cases others with
    | nil => exact absurd rfl more
    | cons second others =>
        obtain ⟨c, inFirst⟩ := List.exists_mem_of_ne_nil _ first.toList_ne_nil
        obtain ⟨d, inSecond⟩ := List.exists_mem_of_ne_nil _ second.toList_ne_nil
        rw [NameStyle.ofName, chars, List.map_cons, List.map_cons, List.intercalate_cons_cons,
          List.append_assoc, List.singleton_append]
        refine ofChars_eq_snake ⟨c, inFirst, ne_underscore (first.isAlphanum c inFirst)⟩
          ⟨d, ?_, ne_underscore (second.isAlphanum d inSecond)⟩
        cases others with
        | nil => simpa using inSecond
        | cons third others =>
            rw [List.map_cons, List.intercalate_cons_cons, List.append_assoc]
            exact List.mem_append_left _ inSecond
  refine ⟨style, ?_⟩
  rw [splitWords, style]
  dsimp only
  rw [snakeWords, chars, splitWhen_intercalate (by simp) (by simp), List.flatMap_map]
  simp only [splitWhen_alphanum (isAlphanum _), ← List.map_eq_flatMap]
  rw [List.map_cons, wordsOfPieces, scan_snake]
  simp [wordsOfPieces_plain]

/-! ## Camel style -/

theorem toList_capitalize (text : String) :
    (capitalize text).toList = capitalizeChars text.toList :=
  String.toList_ofList

theorem toList_camelSpelling (first : PlainWord) (others : List PlainWord) :
    (camelSpelling first others).toList =
      first.text.toList ++ others.flatMap fun word => (capitalize word.text).toList := by
  simp [camelSpelling, String.toList_join, List.flatMap_map]

theorem toList_capitalize_cons {c : Char} {rest : List Char}
    (chars : word.text.toList = c :: rest) :
    (capitalize word.text).toList = c.toUpper :: rest := by
  rw [toList_capitalize, chars]
  rfl

theorem capitalize_digits (digits : word.IsDigits) : capitalize word.text = word.text := by
  obtain ⟨c, rest, chars⟩ := List.exists_cons_of_ne_nil word.toList_ne_nil
  refine String.toList_injective ?_
  rw [toList_capitalize_cons chars, (case_of_isDigit (digits c (chars ▸ List.mem_cons_self))).1,
    chars]

/-- With a capital in front a plain word is one capital, a capital and small letters, or digits. -/
theorem capitalize_cases (word : PlainWord) :
    (word.IsDigits ∧ capitalize word.text = word.text) ∨
    (word.IsLetter ∧ ∃ c, (capitalize word.text).toList = [c] ∧ c.isUpper = true) ∨
    ∃ c d rest, (capitalize word.text).toList = c :: d :: rest ∧ c.isUpper = true ∧
      ∀ e ∈ d :: rest, e.isLower = true := by
  obtain ⟨c, rest, chars⟩ := List.exists_cons_of_ne_nil word.toList_ne_nil
  have capital := toList_capitalize_cons chars
  cases word.plain with
  | inr digits => exact .inl ⟨digits, capitalize_digits digits⟩
  | inl letters =>
      have isLower : c.isLower = true := letters c (chars ▸ List.mem_cons_self)
      have isUpper := (toUpper_of_isAlpha (isAlpha_of_isLower isLower)).1
      cases rest with
      | nil =>
          refine .inr (.inl ⟨⟨?_, letters⟩, c.toUpper, capital, isUpper⟩)
          rw [← String.length_toList, chars]
          rfl
      | cons d rest =>
          refine .inr (.inr ⟨c.toUpper, d, rest, capital, isUpper, ?_⟩)
          intro e member
          exact letters e (chars ▸ List.mem_cons_of_mem c member)

theorem camelWords_capitalize (word : PlainWord) :
    camelWords (capitalize word.text).toList = [word.camelWord] := by
  have whole : String.ofList (capitalize word.text).toList = capitalize word.text :=
    String.ofList_toList
  rcases word.capitalize_cases with ⟨digits, same⟩ | ⟨-, c, chars, upper⟩ |
    ⟨c, d, rest, chars, upper, lower⟩
  · rw [same, camelWords_digits word.toList_ne_nil digits, camelWord, same, String.ofList_toList]
  · rw [chars] at whole ⊢
    rw [camelWords_capital upper, whole]
    rfl
  · rw [chars] at whole ⊢
    rw [camelWords_capitalized upper lower, whole]
    rfl

theorem isAlphanum_capitalize (word : PlainWord) :
    ∀ c ∈ (capitalize word.text).toList, c.isAlphanum = true := by
  intro e member
  rcases word.capitalize_cases with ⟨-, same⟩ | ⟨-, c, chars, upper⟩ |
    ⟨c, d, rest, chars, upper, lower⟩
  · exact word.isAlphanum e (same ▸ member)
  · rw [chars, List.mem_singleton] at member
    exact isAlphanum_of_isUpper (member ▸ upper)
  · rw [chars] at member
    rcases List.mem_cons.mp member with rfl | member
    · exact isAlphanum_of_isUpper upper
    · exact isAlphanum_of_isLower (lower e member)

/-- Read side by side, the two words are told apart. -/
def Apart (word next : PlainWord) : Prop :=
  ¬ (word.IsDigits ∧ next.IsDigits) ∧ ¬ (word.IsLetter ∧ next.IsLetter)

theorem startsSmall_capitalize (word : PlainWord) (tail : List Char) :
    startsSmall ((capitalize word.text).toList ++ tail) = false := by
  rcases word.capitalize_cases with ⟨digits, same⟩ | ⟨-, c, chars, upper⟩ |
    ⟨c, d, rest, chars, upper, -⟩
  · obtain ⟨c, rest, chars⟩ := List.exists_cons_of_ne_nil word.toList_ne_nil
    have isDigit : c.isDigit = true := digits c (chars ▸ List.mem_cons_self)
    rw [same, chars]
    exact (not_isAlpha_of_isDigit isDigit).2
  · rw [chars]
    exact not_isLower_of_isUpper upper
  · rw [chars]
    exact not_isLower_of_isUpper upper

/-- Digits end in front of a word that has none. -/
theorem breaks_digits {cs : List Char} (digits : ∀ c ∈ cs, c.isDigit = true)
    (next : PlainWord) (letters : ¬ next.IsDigits) (tail : List Char) :
    Breaks cs ((capitalize next.text).toList ++ tail) := by
  obtain ⟨c, rest, chars, upper⟩ : ∃ c rest, (capitalize next.text).toList = c :: rest ∧
      c.isUpper = true := by
    rcases next.capitalize_cases with ⟨digits, -⟩ | ⟨-, c, chars, upper⟩ |
      ⟨c, d, rest, chars, upper, -⟩
    · exact absurd digits letters
    · exact ⟨c, [], chars, upper⟩
    · exact ⟨c, d :: rest, chars, upper⟩
  refine ⟨startsSmall_capitalize next tail, fun x isLast upperLast => ?_, fun _ _ _ y isNext => ?_⟩
  · rw [(not_isAlpha_of_isDigit (digits x (List.mem_of_getLast? isLast))).1] at upperLast
    exact nomatch upperLast
  · rw [chars] at isNext
    obtain rfl := Option.some.inj isNext
    exact Text.not_isDigit_of_isAlpha (isAlpha_of_isUpper upper)

theorem breaks_of_apart {word next : PlainWord} (apart : word.Apart next) (tail : List Char) :
    Breaks (capitalize word.text).toList ((capitalize next.text).toList ++ tail) := by
  obtain ⟨notDigits, notLetters⟩ := apart
  rcases word.capitalize_cases with ⟨digits, same⟩ | ⟨letter, c, chars, upper⟩ |
    ⟨c, d, rest, chars, -, lower⟩
  · rw [same]
    exact breaks_digits digits next (fun digitsNext => notDigits ⟨digits, digitsNext⟩) tail
  · -- A single capital must not join the capital of the next word.
    refine ⟨startsSmall_capitalize next tail, fun _ _ _ y after isBack upperNext => ?_,
      fun x isLast digit => ?_⟩
    · rcases next.capitalize_cases with ⟨digits, same⟩ | ⟨letterNext, -⟩ |
        ⟨e, f, others, charsNext, -, lowerNext⟩
      · obtain ⟨e, others, charsNext⟩ := List.exists_cons_of_ne_nil next.toList_ne_nil
        have isDigit : e.isDigit = true := digits e (charsNext ▸ List.mem_cons_self)
        rw [same, charsNext] at isBack
        obtain ⟨rfl, -⟩ := List.cons_eq_cons.mp isBack
        rw [(not_isAlpha_of_isDigit isDigit).1] at upperNext
        exact nomatch upperNext
      · exact absurd ⟨letter, letterNext⟩ notLetters
      · rw [charsNext] at isBack
        obtain ⟨-, rfl⟩ := List.cons_eq_cons.mp isBack
        exact lowerNext f List.mem_cons_self
    · rw [chars] at isLast
      obtain rfl : c = x := Option.some.inj isLast
      rw [Text.not_isDigit_of_isAlpha (isAlpha_of_isUpper upper)] at digit
      exact nomatch digit
  · rw [chars]
    refine .after_small (fun e isLast => lower e ?_) (startsSmall_capitalize next tail)
    rw [List.getLast?_cons_cons] at isLast
    exact List.mem_of_getLast? isLast

theorem camelWords_plain (apart : words.IsChain Apart) :
    camelWords (words.flatMap fun word => (capitalize word.text).toList) = words.map camelWord := by
  induction words with
  | nil => rfl
  | cons word words ih =>
      obtain ⟨here, later⟩ := List.isChain_cons.mp apart
      have breaks : Breaks (capitalize word.text).toList
          (words.flatMap fun word => (capitalize word.text).toList) := by
        cases words with
        | nil => exact .nil _
        | cons next words => exact breaks_of_apart (here next rfl) _
      rw [List.flatMap_cons, camelWords_append breaks, camelWords_capitalize, ih later]
      rfl

/-- The neighbours of a sequence of words can be told apart in camel style: no two of them are
digits, and no two behind the first word are single letters. -/
structure Tellable (first : PlainWord) (others : List PlainWord) : Prop where
  digits : (first :: others).IsChain fun word next => ¬ (word.IsDigits ∧ next.IsDigits)
  letters : others.IsChain fun word next => ¬ (word.IsLetter ∧ next.IsLetter)

theorem splitWords_camel (tellable : Tellable first others) :
    NameStyle.ofName (camelSpelling first others) = .camel ∧
      splitWords (camelSpelling first others) = ⟨first.text, ""⟩ :: others.map camelWord := by
  have chars := toList_camelSpelling first others
  have style : NameStyle.ofName (camelSpelling first others) = .camel := by
    refine ofChars_eq_camel fun c member => ?_
    rw [chars, List.mem_append, List.mem_flatMap] at member
    rcases member with inFirst | ⟨word, -, inWord⟩
    · exact first.isAlphanum c inFirst
    · exact isAlphanum_capitalize word c inWord
  obtain ⟨digitsFirst, digitsLater⟩ := List.isChain_cons.mp tellable.digits
  have apart : others.IsChain Apart := by
    rw [List.isChain_iff_getElem] at digitsLater ⊢
    intro i bound
    exact ⟨digitsLater i bound, List.isChain_iff_getElem.mp tellable.letters i bound⟩
  have breaks : Breaks first.text.toList
      (others.flatMap fun word => (capitalize word.text).toList) := by
    cases others with
    | nil => exact .nil _
    | cons next others =>
        cases first.plain with
        | inl letters =>
            exact .after_small (fun c isLast => letters c (List.mem_of_getLast? isLast))
              (startsSmall_capitalize next _)
        | inr digits =>
            exact breaks_digits digits next
              (fun digitsNext => digitsFirst next rfl ⟨digits, digitsNext⟩) _
  have alone : camelWords first.text.toList = [⟨first.text, ""⟩] := by
    cases first.plain with
    | inl letters => rw [camelWords_small first.toList_ne_nil letters, String.ofList_toList]
    | inr digits => rw [camelWords_digits first.toList_ne_nil digits, String.ofList_toList]
  refine ⟨style, ?_⟩
  rw [splitWords, style]
  dsimp only
  rw [chars, camelWords_append breaks, alone, camelWords_plain apart]
  rfl

end PlainWord

end DerivedQuery
