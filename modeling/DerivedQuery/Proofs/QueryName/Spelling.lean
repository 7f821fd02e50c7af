import DerivedQuery.Failure
import DerivedQuery.Proofs.Name.PlainWord
import DerivedQuery.Proofs.QueryName.Agreement
import DerivedQuery.Proofs.QueryName.Grammar

/-!
# Two spellings of one query name

Plain words spell the same query name in both styles. Either both spellings have the same fault, or
they are read as names that differ in their properties only, each of which is spelled by one group
of words in both.
-/

set_option autoImplicit false

namespace DerivedQuery

namespace PlainWord

/-- One group of words spells the property in snake style and in camel style. -/
def FromOneGroup (words : List PlainWord) (snake camel : String) : Prop :=
  ∃ group, group ≠ [] ∧ group <:+: words ∧ snake = snakeSpelling group ∧
    camel = decapitalize (String.join (group.map fun word => capitalize word.text))

theorem isAscii (word : PlainWord) : ∀ c ∈ word.text.toList, IsAscii c := by
  intro c member
  exact isAscii_of_isAlphanum (word.isAlphanum c member)

theorem key_camelWord (word : PlainWord) : word.camelWord.key = word.snakeWord.key := by
  obtain ⟨c, rest, chars⟩ := List.exists_cons_of_ne_nil word.toList_ne_nil
  have ascii := word.isAscii
  have asciiCapital : ∀ d ∈ capitalizeChars word.text.toList, IsAscii d := by
    intro d member
    rw [← toList_capitalize] at member
    exact isAscii_of_isAlphanum (word.isAlphanum_capitalize d member)
  have keySnake := Word.key_ofList ascii "_"
  have keyCamel := Word.key_ofList asciiCapital ""
  have sameSmall : c.toUpper.toLower = c.toLower := by
    have inWord : c ∈ word.text.toList := chars ▸ List.mem_cons_self
    cases word.plain with
    | inl letters => exact (toUpper_of_isAlpha (isAlpha_of_isLower (letters c inWord))).2.1
    | inr digits => rw [(case_of_isDigit (digits c inWord)).1]
  rw [String.ofList_toList] at keySnake
  rw [snakeWord, keySnake]
  refine keyCamel.trans (congrArg String.ofList ?_)
  rw [chars, capitalizeChars, List.map_cons, List.map_cons, sameSmall]

theorem not_isNumber_of_isAlpha {c : Char} {rest : List Char} {word : Word}
    (chars : word.text.toList = c :: rest) (alpha : c.isAlpha = true) : ¬ word.IsNumber := by
  rintro ⟨-, digits⟩
  have digit := digits c (chars ▸ List.mem_cons_self)
  rw [Text.not_isDigit_of_isAlpha alpha] at digit
  exact nomatch digit

/-- Digits have no capitals, and a word of letters is no number in either spelling. -/
theorem sameReading : SameReading snakeWord camelWord where
  key word := word.key_camelWord.symm
  number word := by
    cases word.plain with
    | inr digits => exact .inl (capitalize_digits digits).symm
    | inl letters =>
        obtain ⟨c, rest, chars⟩ := List.exists_cons_of_ne_nil word.toList_ne_nil
        have alpha := isAlpha_of_isLower (letters c (chars ▸ List.mem_cons_self))
        have upper := (toUpper_of_isAlpha alpha).1
        exact .inr ⟨not_isNumber_of_isAlpha chars alpha,
          not_isNumber_of_isAlpha (toList_capitalize_cons chars) (isAlpha_of_isUpper upper)⟩
  spelled word := by
    obtain ⟨c, rest, chars⟩ := List.exists_cons_of_ne_nil word.toList_ne_nil
    refine ⟨word.nonempty, fun empty => ?_⟩
    have capital := toList_capitalize_cons chars
    have none := congrArg String.toList empty
    rw [camelWord, capital] at none
    cases none

theorem joinProperty_snake {group : List PlainWord} (nonempty : group ≠ []) :
    joinProperty .snake (group.map snakeWord) = snakeSpelling group := by
  have between (cs : List Char) (others : List PlainWord) :
      ['_'].intercalate (cs :: others.map fun word => word.text.toList) =
        cs ++ others.flatMap fun word => '_' :: word.text.toList := by
    induction others generalizing cs with
    | nil => simp
    | cons word others ih =>
        rw [List.map_cons, List.intercalate_cons_cons, ih, List.flatMap_cons]
        simp
  cases group with
  | nil => exact absurd rfl nonempty
  | cons first others =>
      refine String.toList_injective ?_
      rw [joinProperty, List.map_cons, toList_joinWords, toList_snakeSpelling, List.map_cons,
        between, List.flatMap_map]
      simp [snakeWord]

theorem joinProperty_camel {group : List PlainWord} (nonempty : group ≠ []) :
    joinProperty .camel (group.map camelWord) =
      decapitalize (String.join (group.map fun word => capitalize word.text)) := by
  cases group with
  | nil => exact absurd rfl nonempty
  | cons first others =>
      refine congrArg decapitalize (String.toList_injective ?_)
      rw [List.map_cons, toList_joinWords]
      simp [String.toList_join, List.flatMap_map, camelWord]

theorem spellsRelated (words : List PlainWord) :
    SpellsRelated snakeWord camelWord .snake .camel (FromOneGroup words) words := by
  intro group nonempty inside
  exact ⟨group, nonempty, inside, joinProperty_snake nonempty, joinProperty_camel nonempty⟩

end PlainWord

namespace QueryName

variable {style : NameStyle} {words : List Word} {fault : NameFault}

theorem parsePredicate_error (failed : parsePredicate style words = .error fault) :
    fault = .danglingConnective ∨ fault = .noProperty := by
  unfold parsePredicate at failed
  split at failed
  · exact nomatch failed
  obtain ⟨-, group, -, -, -, failed⟩ := mapM_eq_error.mp failed
  unfold parseGroup at failed
  dsimp only at failed
  split at failed
  · exact .inl (Except.error.inj failed).symm
  obtain ⟨-, clause, -, -, -, failed⟩ := mapM_eq_error.mp failed
  split at failed
  · exact nomatch failed
  · exact .inr (Except.error.inj failed).symm

theorem sortKeysAfter_error {pending : List Word}
    (failed : sortKeysAfter style pending words = .error fault) :
    fault = .directionWithoutProperty := by
  induction words generalizing pending with
  | nil => exact nomatch failed
  | cons word words ih =>
      unfold sortKeysAfter at failed
      split at failed
      · exact ih failed
      split at failed
      · exact (Except.error.inj failed).symm
      · exact ih (map_eq_error.mp failed)

theorem parseOrdering_error {ordering : Option (List Word)}
    (failed : parseOrdering style ordering = .error fault) :
    fault = .directionWithoutProperty ∨ fault = .emptyOrderBy := by
  cases ordering with
  | none => exact nomatch failed
  | some words =>
      rcases bind_eq_error.mp failed with failed | ⟨keys, -, failed⟩
      · exact .inl (sortKeysAfter_error failed)
      · split at failed
        · exact .inr (Except.error.inj failed).symm
        · exact nomatch failed

theorem splitOrdering_error (failed : splitOrdering words = .error fault) :
    fault = .repeatedOrderBy := by
  unfold splitOrdering at failed
  split at failed
  · exact nomatch failed
  · split at failed
    · exact (Except.error.inj failed).symm
    · exact nomatch failed

/-- Unless the number of a limit is too long, a fault is one of the grammar. -/
theorem ofWords_error (short : ∀ number, LimitNumber words number →
      number.text.length ≤ Numeral.maxDigits)
    (failed : ofWords style words = .error fault) (digits : Nat) : fault ≠ .longLimit digits := by
  cases words with
  | nil =>
      rw [← Except.error.inj failed]
      exact NameFault.noConfusion
  | cons verbWord rest =>
      obtain ⟨subject, predicate, split⟩ := subjectSplit_total rest
      obtain ⟨limit, reads⟩ := exists_limitReads (behindDistinct subject)
      have isLimit := (limitReads_iff fun word number others behind opens isNumber =>
        short number (.here split behind opens isNumber)).mp reads
      rw [ofWords] at failed
      split at failed
      · rw [← Except.error.inj failed]
        exact NameFault.noConfusion
      rw [subjectSplit_iff.mp split] at failed
      rcases bind_eq_error.mp failed with failed | ⟨limit, -, failed⟩
      · rw [isLimit] at failed
        cases failed
      rcases bind_eq_error.mp failed with failed | ⟨parts, -, failed⟩
      · rw [splitOrdering_error failed]
        exact NameFault.noConfusion
      rcases bind_eq_error.mp failed with failed | ⟨groups, -, failed⟩
      · rcases parsePredicate_error failed with rfl | rfl <;> exact NameFault.noConfusion
      rcases bind_eq_error.mp failed with failed | ⟨orders, -, failed⟩
      · rcases parseOrdering_error failed with rfl | rfl <;> exact NameFault.noConfusion
      · cases failed

open PlainWord in
/-- Both spellings of plain words have the same fault of the grammar, which differs in the name that
the report gives, or say the same of properties that one group of words spells in both. -/
theorem parse_spellings {first : PlainWord} {others : List PlainWord} (more : others ≠ [])
    (tellable : Tellable first others)
    (short : ∀ number, LimitNumber (splitWords (snakeSpelling (first :: others))) number →
      number.text.length ≤ 4300) :
    (∃ fault, parse (snakeSpelling (first :: others)) = .error fault ∧
      parse (camelSpelling first others) = .error fault ∧
      ∀ source, (Failure.badName fault source).failureClass = .invalidMethodName ∧
        (Failure.badName fault source).report =
          .ofText fault.message [("method_name", .text source)]) ∨
    ∃ snake camel, parse (snakeSpelling (first :: others)) = .ok snake ∧
      parse (camelSpelling first others) = .ok camel ∧
      snake.SameUpTo (FromOneGroup others) camel := by
  obtain ⟨styleSnake, wordsSnake⟩ := @splitWords_snake first others more
  obtain ⟨styleCamel, wordsCamel⟩ := splitWords_camel tellable
  have agree := sameReading.ofWords ⟨first.text, ""⟩ (spellsRelated others)
  rw [wordsSnake] at short
  simp only [parse, styleSnake, styleCamel, wordsSnake, wordsCamel]
  rcases agree.error_or_ok with ⟨fault, left, right⟩ | accepted
  · refine .inl ⟨fault, left, right, fun source => ?_⟩
    have grammar := ofWords_error short left
    cases fault with
    | longLimit digits => exact absurd rfl (grammar digits)
    | noVerb => exact ⟨rfl, rfl⟩
    | repeatedOrderBy => exact ⟨rfl, rfl⟩
    | danglingConnective => exact ⟨rfl, rfl⟩
    | noProperty => exact ⟨rfl, rfl⟩
    | directionWithoutProperty => exact ⟨rfl, rfl⟩
    | emptyOrderBy => exact ⟨rfl, rfl⟩
  · exact .inr accepted

open PlainWord in
theorem parse_spellings_shelf :
    ∃ snake camel,
      parse "find_top_3_by_a_2_b_and_book_title_greater_than_order_by_year_desc" = .ok snake ∧
      parse "findTop3ByA2BAndBookTitleGreaterThanOrderByYearDesc" = .ok camel ∧
      snake.SameUpTo (FromOneGroup (["top", "3", "by", "a", "2", "b", "and", "book", "title",
        "greater", "than", "order", "by", "year", "desc"].filterMap ofText?)) camel := by
  let first : PlainWord := ⟨"find", by decide, .inl (List.all_eq_true.mp (by decide +kernel))⟩
  let others := ["top", "3", "by", "a", "2", "b", "and", "book", "title",
    "greater", "than", "order", "by", "year", "desc"].filterMap ofText?
  have snakeText : snakeSpelling (first :: others) =
      "find_top_3_by_a_2_b_and_book_title_greater_than_order_by_year_desc" := by
    decide +kernel
  have camelText : camelSpelling first others =
      "findTop3ByA2BAndBookTitleGreaterThanOrderByYearDesc" := by
    decide +kernel
  have lengths : ∀ word ∈ splitWords (snakeSpelling (first :: others)),
      word.text.length ≤ 4300 := by
    decide +kernel
  have more : others ≠ [] := by
    intro empty
    have length : others.length = 15 := by decide +kernel
    rw [empty] at length
    exact nomatch length
  have tellable : Tellable first others := ⟨by decide +kernel, by decide +kernel⟩
  have spellings := parse_spellings more tellable fun number limit => lengths number limit.mem
  rw [snakeText, camelText] at spellings
  rcases spellings with ⟨fault, failed, -⟩ | accepted
  · have reads : (parse "find_top_3_by_a_2_b_and_book_title_greater_than_order_by_year_desc").isOk =
        true := by
      decide +kernel
    rw [failed] at reads
    exact nomatch reads
  · exact accepted

end QueryName

end DerivedQuery
