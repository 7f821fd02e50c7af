import DerivedQuery.Proofs.Name.Boundary
import Mathlib.Data.List.TakeWhile

/-!
# Words in camel style

Whether a word ends between two characters is decided by these two and the next one. Two texts that
break between each other are therefore split on their own. A capital followed by small letters is
one word, digits are one word, and letters and digits are spelled by their words.
-/

set_option autoImplicit false

namespace DerivedQuery

/-- A word ends between the two texts. -/
structure Breaks (front back : List Char) : Prop where
  small : startsSmall back = false
  capital : ∀ x ∈ front.getLast?, x.isUpper = true → ∀ y rest, back = y :: rest →
    y.isUpper = true → startsSmall rest = true
  digit : ∀ x ∈ front.getLast?, Text.isDigit x = true → ∀ y ∈ back.head?, Text.isDigit y = false

namespace Breaks

variable {front back : List Char}

theorem suffix (breaks : Breaks front back) {part : List Char} (nonempty : part ≠ [])
    (inside : part <:+ front) : Breaks part back := by
  obtain ⟨before, rfl⟩ := inside
  have last : (before ++ part).getLast? = part.getLast? :=
    List.getLast?_append_of_ne_nil before nonempty
  exact ⟨breaks.small, last ▸ breaks.capital, last ▸ breaks.digit⟩

theorem nil (front : List Char) : Breaks front [] :=
  ⟨rfl, fun _ _ _ _ _ same => (nomatch same), by simp⟩

theorem after_small (lower : ∀ c ∈ front.getLast?, c.isLower = true)
    (small : startsSmall back = false) : Breaks front back := by
  refine ⟨small, fun x isLast upper => ?_, fun x isLast digit => ?_⟩
  · rw [not_isUpper_of_isLower (lower x isLast)] at upper
    exact nomatch upper
  · rw [Text.not_isDigit_of_isAlpha (isAlpha_of_isLower (lower x isLast))] at digit
    exact nomatch digit

theorem before_capitalized {c d : Char} (upper : c.isUpper = true) (lower : d.isLower = true) :
    Breaks front (c :: d :: back) := by
  have notDigit : Text.isDigit c = false := Text.not_isDigit_of_isAlpha (isAlpha_of_isUpper upper)
  refine ⟨not_isLower_of_isUpper upper, fun x _ _ y rest same _ => ?_, ?_⟩
  · obtain ⟨rfl, rfl⟩ := List.cons_eq_cons.mp same
    exact lower
  · simpa using fun _ _ _ => notDigit

/-- Where two texts break, the last word in front ends. -/
theorem endsBy {c : Char} (breaks : Breaks [c] back) (isWord : isWordChar c = true) :
    EndsBy CamelBoundary c back := by
  rintro d more rfl nextWord
  by_contra inside
  have goesOn : isWordChar d = true ∧ ¬ CamelBoundary c d more.head? := ⟨nextWord, inside⟩
  have notSmall : d.isLower = false := breaks.small
  rcases char_cases c with ⟨upper, -⟩ | ⟨-, lower, -⟩ | ⟨-, -, digit⟩ | ⟨upper, lower, digit⟩
  · rcases (capital_goesOn_iff upper).mp goesOn with small | ⟨next, quiet⟩
    · simp [notSmall] at small
    · have starts := breaks.capital c rfl upper d more rfl next
      simp [startsSmall_eq_false.mpr quiet] at starts
  · have small := (small_goesOn_iff lower).mp goesOn
    simp [notSmall] at small
  · have next := (digit_goesOn_iff digit).mp goesOn
    simp [breaks.digit c rfl digit d rfl] at next
  · simp [isWordChar, isAlpha_eq, upper, lower, digit] at isWord

/-- No end in front of a break depends on the text behind it. -/
theorem endsBy_iff {c : Char} {rest : List Char} (breaks : Breaks front back)
    (inside : c :: rest <:+ front) (isWord : isWordChar c = true) :
    EndsBy CamelBoundary c (rest ++ back) ↔ EndsBy CamelBoundary c rest := by
  have breaksHere := breaks.suffix (List.cons_ne_nil c rest) inside
  match rest with
  | [] => exact iff_of_true (breaksHere.endsBy isWord) nofun
  | [d] =>
      have none : ¬ ∃ e ∈ back.head?, e.isLower = true := by
        rintro ⟨e, isHead, small⟩
        simp [startsSmall_eq_false.mp breaks.small e isHead] at small
      have same : (∃ e ∈ back.head?, e.isLower = true) ↔
          ∃ e ∈ ([] : List Char).head?, e.isLower = true := iff_of_false none (by simp)
      rw [List.cons_append, List.nil_append, endsBy_cons, endsBy_cons, CamelBoundary, CamelBoundary,
        same]
  | d :: e :: more =>
      rw [List.cons_append, endsBy_cons, endsBy_cons]
      rfl

end Breaks

/-- Texts that break between each other are split on their own. -/
theorem camelWords_append {front back : List Char} (breaks : Breaks front back) :
    camelWords (front ++ back) = camelWords front ++ camelWords back := by
  rw [camelWords, camelWordLength_local.scan_append fun c rest inside isWord =>
    breaks.endsBy_iff inside isWord, List.map_append]
  rfl

theorem flatMap_camelWords {cs : List Char} (alphanum : ∀ c ∈ cs, c.isAlphanum = true) :
    (camelWords cs).flatMap (fun word => word.text.toList) = cs := by
  rw [camelWords, List.flatMap_map]
  simp only [String.toList_ofList, List.flatMap_id']
  rw [(camelWordLength_local.pieces_scan cs).flatten]
  exact List.filter_eq_self.mpr fun c member => isWordChar_of_isAlphanum (alphanum c member)

private theorem camelWords_whole {c : Char} {rest : List Char}
    (whole : camelWordLength (c :: rest) = rest.length + 1) :
    camelWords (c :: rest) = [⟨String.ofList (c :: rest), ""⟩] := by
  rw [camelWords, scan_whole whole]
  rfl

theorem camelWords_capitalized {c d : Char} {rest : List Char} (upper : c.isUpper = true)
    (lower : ∀ e ∈ d :: rest, e.isLower = true) :
    camelWords (c :: d :: rest) = [⟨String.ofList (c :: d :: rest), ""⟩] := by
  have lowerNext : d.isLower = true := lower d (by simp)
  have allLower : (d :: rest).takeWhile Char.isLower = d :: rest :=
    List.takeWhile_eq_self_iff.mpr lower
  refine camelWords_whole ?_
  rw [camelWordLength_of_isUpper upper, List.takeWhile_cons, List.dropWhile_cons,
    not_isUpper_of_isLower lowerNext]
  simp [startsSmall, lowerNext, allLower]

theorem camelWords_capital {c : Char} (upper : c.isUpper = true) :
    camelWords [c] = [⟨String.ofList [c], ""⟩] := by
  refine camelWords_whole ?_
  rw [camelWordLength_of_isUpper upper]
  rfl

theorem camelWords_small {cs : List Char} (nonempty : cs ≠ [])
    (lower : ∀ c ∈ cs, c.isLower = true) : camelWords cs = [⟨String.ofList cs, ""⟩] := by
  cases cs with
  | nil => exact absurd rfl nonempty
  | cons c rest =>
      obtain ⟨isLower, small⟩ := List.forall_mem_cons.mp lower
      refine camelWords_whole ?_
      rw [camelWordLength_of_small isLower, List.takeWhile_eq_self_iff.mpr small]

theorem ofChars_eq_camel {cs : List Char} (alphanum : ∀ c ∈ cs, c.isAlphanum = true) :
    NameStyle.ofChars cs = .camel := by
  have absent : '_' ∉ cs := fun member => absurd (alphanum '_' member) (by decide)
  refine if_neg fun contains => absent ?_
  have inner := List.contains_iff_mem.mp contains
  rw [List.mem_reverse] at inner
  have stripped := (List.dropWhile_sublist _).subset inner
  rw [List.mem_reverse] at stripped
  exact (List.dropWhile_sublist _).subset stripped

theorem camelWords_digits {cs : List Char} (nonempty : cs ≠ [])
    (digits : ∀ c ∈ cs, c.isDigit = true) : camelWords cs = [⟨String.ofList cs, ""⟩] := by
  cases cs with
  | nil => exact absurd rfl nonempty
  | cons c rest =>
      have known : ∀ d ∈ c :: rest, Text.isDigit d = true := fun d member => by
        rw [Text.isDigit_of_isAscii (isAscii_of_isDigit (digits d member))]
        exact digits d member
      obtain ⟨isDigit, rest_digits⟩ := List.forall_mem_cons.mp known
      refine camelWords_whole ?_
      rw [camelWordLength_of_digit isDigit, List.takeWhile_eq_self_iff.mpr rest_digits]

end DerivedQuery
