import DerivedQuery.Proofs.Name.Boundary
import DerivedQuery.Proofs.Name.Snake
import Mathlib.Data.List.DropRight

/-!
# Words of snake style joined

The words of the pieces between underscores are the words of the whole text, since no word has an
underscore. Joined, they spell the letters and digits of the text, with one underscore between words
where the text has any.
-/

set_option autoImplicit false

namespace DerivedQuery

/-- The text with one underscore for each run of underscores. -/
def collapseUnderscores : List Char → List Char
  | [] => []
  | c :: rest =>
      if c = '_' ∧ rest.head? = some '_' then collapseUnderscores rest
      else c :: collapseUnderscores rest

/-- The text without the underscores at both ends. -/
def stripUnderscores (cs : List Char) : List Char :=
  (cs.rdropWhile (· == '_')).dropWhile (· == '_')

/-- Characters that snake style does not drop. -/
def isSnakeChar (c : Char) : Bool := isWordChar c || c == '_'

theorem ne_underscore_of_isWordChar {c : Char} (isWord : isWordChar c = true) : c ≠ '_' := by
  rintro rfl
  exact absurd isWord (by decide)

theorem rdropWhile_append {α : Type} (test : α → Bool) (front back : List α) :
    (front ++ back).rdropWhile test =
      if back.rdropWhile test = [] then front.rdropWhile test
      else front ++ back.rdropWhile test := by
  simp only [List.rdropWhile, List.reverse_append, List.dropWhile_append, List.isEmpty_iff,
    List.reverse_eq_nil_iff]
  split
  · rfl
  · simp

theorem collapseUnderscores_append {front : List Char} (plain : ∀ c ∈ front, c ≠ '_')
    (back : List Char) :
    collapseUnderscores (front ++ back) = front ++ collapseUnderscores back := by
  induction front with
  | nil => rfl
  | cons c front ih =>
      obtain ⟨here, rest⟩ := List.forall_mem_cons.mp plain
      rw [List.cons_append, collapseUnderscores, if_neg fun both => here both.1, ih rest,
        List.cons_append]

theorem rdropWhile_append_of_last {α : Type} {test : α → Bool} {front : List α}
    (keeps : ∀ x ∈ front.getLast?, test x = false) (back : List α) :
    (front ++ back).rdropWhile test = front ++ back.rdropWhile test := by
  rw [rdropWhile_append]
  split
  · rename_i none
    rw [none, List.append_nil]
    refine List.rdropWhile_eq_self_iff.mpr fun nonempty => ?_
    simp [keeps _ (List.getLast?_eq_some_getLast nonempty)]
  · rfl

/-- Underscores in front of each text, but only one of them in front of texts that are empty, and
none at the end. -/
theorem rdropWhile_collapseUnderscores {texts : List (List Char)}
    (plain : ∀ text ∈ texts, ∀ c ∈ text, c ≠ '_') :
    (collapseUnderscores (texts.flatMap ('_' :: ·))).rdropWhile (· == '_') =
      (texts.filter (!·.isEmpty)).flatMap ('_' :: ·) := by
  induction texts with
  | nil => rfl
  | cons text texts ih =>
      obtain ⟨here, rest⟩ := List.forall_mem_cons.mp plain
      rw [List.flatMap_cons, List.cons_append]
      cases text with
      | nil =>
          cases texts with
          | nil => decide
          | cons next texts =>
              rw [List.nil_append, collapseUnderscores, if_pos ⟨rfl, rfl⟩]
              exact ih rest
      | cons c text =>
          have single : ¬ (('_' : Char) = '_' ∧
              ((c :: text) ++ texts.flatMap ('_' :: ·)).head? = some '_') := by
            simpa using here c List.mem_cons_self
          have keeps : ∀ d ∈ ('_' :: c :: text).getLast?, (d == '_') = false := by
            intro d isLast
            rw [List.getLast?_cons_cons] at isLast
            simpa using here d (List.mem_of_getLast? isLast)
          rw [collapseUnderscores, if_neg single, collapseUnderscores_append here,
            ← List.cons_append, rdropWhile_append_of_last keeps, ih rest]
          rfl

theorem stripUnderscores_cons (cs : List Char) :
    stripUnderscores ('_' :: cs) = stripUnderscores cs := by
  have split := rdropWhile_append (· == '_') ['_'] cs
  rw [stripUnderscores, stripUnderscores, ← List.singleton_append, split]
  split
  · rename_i none
    rw [none]
    rfl
  · rfl

theorem strip_collapse_cons (cs : List Char) :
    stripUnderscores (collapseUnderscores ('_' :: cs)) =
      stripUnderscores (collapseUnderscores cs) := by
  rw [collapseUnderscores]
  split
  · rfl
  · exact stripUnderscores_cons _

theorem filter_isSnakeChar (cs : List Char) :
    '_' :: cs.filter isSnakeChar =
      ((splitWhen (· == '_') cs).map (List.filter isWordChar)).flatMap ('_' :: ·) := by
  have kept := congrArg (List.filter isSnakeChar) (flatMap_splitWhen '_' cs)
  rw [List.filter_cons_of_pos (by decide), List.filter_flatMap] at kept
  rw [← kept, List.flatMap_map]
  refine List.flatMap_congr fun piece inside => ?_
  rw [List.filter_cons_of_pos (by decide)]
  refine congrArg _ (List.filter_congr fun c member => ?_)
  rw [isSnakeChar, plain_of_mem_splitWhen inside c member, Bool.or_false]

theorem texts_wordsOfPieces_eq (started : Bool) (pieces : List (List Char)) :
    (wordsOfPieces started pieces).map (fun word => word.text.toList) =
      pieces.flatMap (scan snakeWordLength) := by
  induction pieces generalizing started with
  | nil => rfl
  | cons piece pieces ih =>
      rw [wordsOfPieces, List.flatMap_cons]
      split
      · rename_i none
        rw [none, ih, List.nil_append]
      · rename_i first others scanned
        rw [scanned]
        simp [ih, Function.comp_def]

theorem scan_snake_append {front back : List Char}
    (stops : ∀ c ∈ back.head?, isWordChar c = false) :
    scan snakeWordLength (front ++ back) =
      scan snakeWordLength front ++ scan snakeWordLength back := by
  refine snakeWordLength_local.scan_append fun c rest _ _ => ?_
  cases rest with
  | nil =>
      refine iff_of_true ?_ nofun
      rintro d more rfl isWord
      simp [stops d rfl] at isWord
  | cons d more => rw [List.cons_append, endsBy_cons, endsBy_cons, SnakeBoundary, SnakeBoundary]

theorem scan_underscore (cs : List Char) :
    scan snakeWordLength ('_' :: cs) = scan snakeWordLength cs :=
  scan_cons_of_zero (snakeWordLength_local.drop '_' cs (by decide))

theorem scan_flatMap_underscore (pieces : List (List Char)) :
    scan snakeWordLength (pieces.flatMap ('_' :: ·)) = pieces.flatMap (scan snakeWordLength) := by
  induction pieces with
  | nil => rfl
  | cons piece pieces ih =>
      have stops : ∀ c ∈ (pieces.flatMap ('_' :: ·)).head?, isWordChar c = false := by
        cases pieces with
        | nil => simp
        | cons next pieces => simp [show isWordChar '_' = false by decide]
      rw [List.flatMap_cons, List.cons_append, scan_underscore, scan_snake_append stops, ih,
        List.flatMap_cons]

theorem texts_snakeWords (cs : List Char) :
    (snakeWords cs).map (fun word => word.text.toList) = scan snakeWordLength cs := by
  rw [snakeWords, texts_wordsOfPieces_eq, ← scan_flatMap_underscore, flatMap_splitWhen,
    scan_underscore]

theorem isWordChar_of_mem_scan {cs piece : List Char} (inside : piece ∈ scan snakeWordLength cs) :
    ∀ c ∈ piece, isWordChar c = true := by
  intro c member
  have kept : c ∈ (scan snakeWordLength cs).flatten := List.mem_flatten.mpr ⟨piece, inside, member⟩
  rw [flatten_scan_snake] at kept
  exact (List.mem_filter.mp kept).2

/-- Only the underscore in front of the first word is dropped, where it is joined to no word. -/
theorem flatMap_joined_started (cs : List Char) :
    ((wordsOfPieces true (splitWhen (· == '_') cs)).flatMap Word.joined).dropWhile (· == '_') =
      (snakeWords cs).flatMap Word.joined := by
  have texts := texts_snakeWords cs
  rw [snakeWords] at texts ⊢
  rcases wordsOfPieces_started (splitWhen (· == '_') cs) with ⟨none, none'⟩ |
    ⟨text, others, started, first⟩
  · rw [none, none']
    rfl
  · rw [first, List.map_cons] at texts
    have inside : text.toList ∈ scan snakeWordLength cs := texts ▸ List.mem_cons_self
    obtain ⟨c, rest, spelled⟩ := List.exists_cons_of_ne_nil (ne_nil_of_mem_scan inside)
    have isWord := isWordChar_of_mem_scan inside c (spelled ▸ List.mem_cons_self)
    rw [started, first, List.flatMap_cons, List.flatMap_cons]
    simp [Word.joined, spelled, ne_underscore_of_isWordChar isWord]

/-- The words in snake style, joined, are the letters, digits and underscores of the text, with
single underscores, and none at the ends. -/
theorem flatMap_joined_snakeWords (cs : List Char) :
    (snakeWords cs).flatMap Word.joined =
      stripUnderscores (collapseUnderscores (cs.filter isSnakeChar)) := by
  have plain : ∀ text ∈ (splitWhen (· == '_') cs).map (List.filter isWordChar),
      ∀ c ∈ text, c ≠ '_' := by
    intro text inside c member
    obtain ⟨piece, -, rfl⟩ := List.mem_map.mp inside
    exact ne_underscore_of_isWordChar (List.mem_filter.mp member).2
  -- An underscore in front makes all pieces alike, and is stripped again.
  rw [← strip_collapse_cons, filter_isSnakeChar, stripUnderscores,
    rdropWhile_collapseUnderscores plain, ← flatMap_joined_wordsOfPieces, flatMap_joined_started]

end DerivedQuery
