import DerivedQuery.Proofs.Name.Property
import DerivedQuery.Proofs.Name.Separated

/-!
# Words in snake style

The pieces between underscores are split on their own, and the first word of every piece but the
first one is joined by an underscore. Letters are one word, digits are one word, and pieces of
letters and digits are spelled by their words.
-/

set_option autoImplicit false

namespace DerivedQuery

theorem scan_letters {cs : List Char} (nonempty : cs ≠ [])
    (letters : ∀ c ∈ cs, c.isAlpha = true) : scan snakeWordLength cs = [cs] := by
  cases cs with
  | nil => exact absurd rfl nonempty
  | cons c rest =>
      obtain ⟨isAlpha, alpha⟩ := List.forall_mem_cons.mp letters
      refine scan_whole ?_
      rw [snakeWordLength_of_letter isAlpha, List.takeWhile_eq_self_iff.mpr alpha]

theorem scan_digits {cs : List Char} (nonempty : cs ≠ [])
    (digits : ∀ c ∈ cs, c.isDigit = true) : scan snakeWordLength cs = [cs] := by
  cases cs with
  | nil => exact absurd rfl nonempty
  | cons c rest =>
      have known : ∀ d ∈ c :: rest, Text.isDigit d = true := fun d member => by
        rw [Text.isDigit_of_isAscii (isAscii_of_isDigit (digits d member))]
        exact digits d member
      obtain ⟨isDigit, rest_digits⟩ := List.forall_mem_cons.mp known
      refine scan_whole ?_
      rw [snakeWordLength_of_digit isDigit, List.takeWhile_eq_self_iff.mpr rest_digits]

theorem wordsOfPieces_append (pieces others : List (List Char)) :
    wordsOfPieces true (pieces ++ others) =
      wordsOfPieces true pieces ++ wordsOfPieces true others := by
  induction pieces with
  | nil => rfl
  | cons piece pieces ih =>
      simp only [List.cons_append, wordsOfPieces]
      split
      · exact ih
      · simp [ih]

theorem wordsOfPieces_started (pieces : List (List Char)) :
    (wordsOfPieces true pieces = [] ∧ wordsOfPieces false pieces = []) ∨
    ∃ text others, wordsOfPieces true pieces = ⟨text, "_"⟩ :: others ∧
      wordsOfPieces false pieces = ⟨text, ""⟩ :: others := by
  induction pieces with
  | nil => exact .inl ⟨rfl, rfl⟩
  | cons piece pieces ih =>
      rw [wordsOfPieces, wordsOfPieces]
      split
      · exact ih
      · exact .inr ⟨_, _, rfl, rfl⟩

theorem texts_wordsOfPieces (started : Bool) (pieces : List (List Char)) :
    (wordsOfPieces started pieces).map Word.text = (wordsOfPieces true pieces).map Word.text := by
  cases started with
  | true => rfl
  | false =>
      rcases wordsOfPieces_started pieces with ⟨none, none'⟩ | ⟨text, others, first, first'⟩
      · rw [none, none']
      · rw [first, first', List.map_cons, List.map_cons]

/-- A word with what joins it to the words before it. -/
def Word.joined (word : Word) : List Char := word.joiner.toList ++ word.text.toList

theorem flatten_scan_snake (cs : List Char) :
    (scan snakeWordLength cs).flatten = cs.filter isWordChar :=
  (snakeWordLength_local.pieces_scan cs).flatten

/-- Joined to words before them, the words of pieces have an underscore for each piece with words. -/
theorem flatMap_joined_wordsOfPieces (pieces : List (List Char)) :
    (wordsOfPieces true pieces).flatMap Word.joined =
      ((pieces.map (List.filter isWordChar)).filter (!·.isEmpty)).flatMap ('_' :: ·) := by
  induction pieces with
  | nil => rfl
  | cons piece pieces ih =>
      have spelled := flatten_scan_snake piece
      rw [wordsOfPieces, List.map_cons, ← spelled]
      split
      · rename_i none
        rw [none, ih]
        rfl
      · rename_i first others scanned
        have nonempty : first ≠ [] := ne_nil_of_mem_scan (scanned ▸ List.mem_cons_self)
        rw [scanned, List.filter_cons_of_pos (by simp [nonempty])]
        simp [Word.joined, List.flatMap_map, List.flatMap_id', ih]

theorem flatMap_wordsOfPieces {pieces : List (List Char)}
    (alphanum : ∀ piece ∈ pieces, piece ≠ [] ∧ ∀ c ∈ piece, c.isAlphanum = true) :
    (wordsOfPieces true pieces).flatMap Word.joined = pieces.flatMap ('_' :: ·) := by
  have kept : pieces.map (List.filter isWordChar) = pieces := by
    refine (List.map_congr_left fun piece inside => ?_).trans (List.map_id pieces)
    exact List.filter_eq_self.mpr fun c member =>
      isWordChar_of_isAlphanum ((alphanum piece inside).2 c member)
  have nonempty : pieces.filter (!·.isEmpty) = pieces :=
    List.filter_eq_self.mpr fun piece inside => by simpa using (alphanum piece inside).1
  rw [flatMap_joined_wordsOfPieces, kept, nonempty]

/-- A name with an underscore between two other characters is in snake style. -/
theorem ofChars_eq_snake {front back : List Char} (before : ∃ c ∈ front, c ≠ '_')
    (behind : ∃ c ∈ back, c ≠ '_') : NameStyle.ofChars (front ++ '_' :: back) = .snake := by
  have kept {cs more : List Char} (other : ∃ c ∈ cs, c ≠ '_') :
      (cs ++ more).dropWhile (· == '_') = cs.dropWhile (· == '_') ++ more := by
    obtain ⟨c, member, different⟩ := other
    rw [List.dropWhile_append, if_neg]
    rw [List.isEmpty_iff, List.dropWhile_eq_nil_iff]
    exact fun all => different (by simpa using all c member)
  have behindReversed : ∃ c ∈ back.reverse, c ≠ '_' := by simpa using behind
  unfold NameStyle.ofChars
  dsimp only
  rw [kept before, List.reverse_append, List.reverse_cons, List.append_assoc, kept behindReversed]
  simp

theorem flatMap_splitWhen {α : Type} [DecidableEq α] (separator : α) (xs : List α) :
    (splitWhen (· == separator) xs).flatMap (separator :: ·) = separator :: xs := by
  induction xs with
  | nil => rfl
  | cons x xs ih =>
      by_cases same : x = separator
      · rw [splitWhen, if_pos (by simpa using same), List.flatMap_cons, ih, same]
        rfl
      · obtain ⟨piece, pieces, split, splitHere⟩ :=
          @splitWhen_cons_plain _ (· == separator) x xs (by simpa using same)
        rw [split, List.flatMap_cons, List.cons_append, List.cons_eq_cons] at ih
        rw [splitHere, List.flatMap_cons, List.cons_append, List.cons_append, ih.2]

theorem ne_underscore {c : Char} (alphanum : c.isAlphanum = true) : c ≠ '_' := by
  rintro rfl
  exact absurd alphanum (by decide)

theorem splitWhen_alphanum {cs : List Char} (alphanum : ∀ c ∈ cs, c.isAlphanum = true) :
    splitWhen (· == '_') cs = [cs] :=
  splitWhen_plain fun c member => by simpa using ne_underscore (alphanum c member)

/-- Behind other words, the words of a property are joined to it as well. -/
theorem joinProperty_wordsOfPieces {cs : List Char}
    (alphanum : ∀ piece ∈ splitWhen (· == '_') cs, piece ≠ [] ∧ ∀ c ∈ piece, c.isAlphanum = true) :
    wordsOfPieces true (splitWhen (· == '_') cs) ≠ [] ∧
      joinProperty .snake (wordsOfPieces true (splitWhen (· == '_') cs)) = String.ofList cs := by
  have spelled := flatMap_wordsOfPieces alphanum
  rw [flatMap_splitWhen] at spelled
  rcases wordsOfPieces_started (splitWhen (· == '_') cs) with ⟨none, -⟩ |
    ⟨text, others, words, -⟩
  · simp [none] at spelled
  · have joiner : ("_" : String).toList = ['_'] := rfl
    rw [words, List.flatMap_cons, Word.joined, joiner] at spelled
    refine ⟨words ▸ List.cons_ne_nil _ _, String.toList_injective ?_⟩
    rw [words, joinProperty, toList_joinWords, String.toList_ofList]
    exact List.tail_eq_of_cons_eq spelled

theorem keys_wordsOfPieces (cs : List Char) :
    (wordsOfPieces true (splitWhen (· == '_') cs)).map Word.key = (snakeWords cs).map Word.key := by
  have keys := congrArg (List.map Text.lower)
    (texts_wordsOfPieces false (splitWhen (· == '_') cs))
  rw [List.map_map, List.map_map] at keys
  exact keys.symm

end DerivedQuery
