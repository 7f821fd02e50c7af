import DerivedQuery.Proofs.Name.Joined
import DerivedQuery.Proofs.Name.Runs
import DerivedQuery.Proofs.Name.Words
import Mathlib.Data.List.Sigma

/-!
# Words and their places

With the place of each character beside it, the words of a name show which characters are in one
word. No letter and no digit of a name is lost, and where a word ends is decided by the neighbours
and the character behind them, in both styles.
-/

set_option autoImplicit false

namespace DerivedQuery

variable {boundary : Char → Char → Option Char → Prop} {pieceLength : List Char → Nat}

/-- The words of a name, with the place of each character in the name beside it, are cut where there
is a boundary, and at the characters of no word. -/
structure CutAt (boundary : Char → Char → Option Char → Prop) (name : List Char)
    (texts : List (List Char)) (words : List (List (Char × Nat))) : Prop where
  texts : words.map (List.map Prod.fst) = texts
  complete : words.flatten = name.zipIdx.filter fun place => isWordChar place.1
  neighbours : ∀ front c d back, name = front ++ c :: d :: back → isWordChar c = true →
    isWordChar d = true →
      (¬ Together words (c, front.length) (d, front.length + 1) ↔ boundary c d back.head?)
  apart : ∀ front c middle d back, name = front ++ c :: (middle ++ d :: back) →
    (∃ e ∈ middle, isWordChar e = false) →
      ¬ Together words (c, front.length) (d, front.length + 1 + middle.length)

theorem zipIdx_nodup (cs : List Char) : cs.zipIdx.Nodup :=
  List.Nodup.of_map Prod.snd (List.nodup_zipIdx_map_snd cs)

theorem LocalLength.exists_cutAt (rule : LocalLength pieceLength isWordChar (EndsBy boundary))
    (name : List Char) : ∃ words, CutAt boundary name (scan pieceLength name) words := by
  have made := (rule.map Prod.fst).pieces_scan name.zipIdx
  have nodup := zipIdx_nodup name
  refine ⟨_, ?_, made.flatten, ?_, ?_⟩
  · rw [← scan_map, List.zipIdx_map_fst]
  · intro front c d back split first second
    have places : name.zipIdx = front.zipIdx ++ (c, front.length) :: (d, front.length + 1) ::
        back.zipIdx (front.length + 2) := by
      rw [split, List.zipIdx_append, List.zipIdx_cons, List.zipIdx_cons, Nat.zero_add]
    rw [made.together_iff nodup places first, not_not, List.map_cons, List.zipIdx_map_fst,
      endsBy_cons]
    exact imp_iff_right second
  · rintro front c middle d back split ⟨e, member, dropped⟩
    have places : name.zipIdx = front.zipIdx ++ (c, front.length) ::
        (middle.zipIdx (front.length + 1) ++ (d, front.length + 1 + middle.length) ::
          back.zipIdx (front.length + 1 + middle.length + 1)) := by
      rw [split, List.zipIdx_append, List.zipIdx_cons, List.zipIdx_append, List.zipIdx_cons,
        Nat.zero_add]
    obtain ⟨i, inside⟩ : ∃ i, (e, i) ∈ middle.zipIdx (front.length + 1) := by
      rw [← List.zipIdx_map_fst (front.length + 1) middle] at member
      obtain ⟨place, inside, rfl⟩ := List.mem_map.mp member
      exact ⟨place.2, inside⟩
    exact made.not_together nodup places ⟨(e, i), inside, dropped⟩

theorem LocalLength.letters_or_digits
    (rule : LocalLength pieceLength isWordChar (EndsBy boundary))
    (kinds : ∀ c d next, KindsDiffer c d → boundary c d next) {name text : List Char}
    (inside : text ∈ scan pieceLength name) :
    (∀ c ∈ text, c.isAlpha = true) ∨ ∀ c ∈ text, Text.isDigit c = true := by
  have made := rule.pieces_scan name
  have alike {c d : Char} (first : c ∈ text) (second : d ∈ text) :
      Text.isDigit c = Text.isDigit d := by
    refine made.eq_of_together (fun x y rest isWord nextWord goesOn => ?_)
      ⟨text, inside, first, second⟩
    rw [endsBy_cons] at goesOn
    have same : ¬ KindsDiffer x y := fun differ => goesOn fun _ => kinds x y _ differ
    rcases kind_cases x with ⟨l, g⟩ | ⟨l, g⟩ | ⟨l, g⟩ <;>
      rcases kind_cases y with ⟨m, h⟩ | ⟨m, h⟩ | ⟨m, h⟩ <;>
        simp_all [KindsDiffer, isWordChar]
  have isWord : ∀ c ∈ text, isWordChar c = true := fun c member =>
    (made.mem_of_together ⟨text, inside, member, member⟩).1.2
  by_cases digits : ∃ d ∈ text, Text.isDigit d = true
  · obtain ⟨d, member, digit⟩ := digits
    exact .inr fun c memberC => (alike memberC member).trans digit
  · refine .inl fun c member => (Bool.or_eq_true_iff.mp (isWord c member)).resolve_right ?_
    exact fun digit => digits ⟨c, member, digit⟩

theorem texts_camelWords (cs : List Char) :
    (camelWords cs).map (fun word => word.text.toList) = scan camelWordLength cs := by
  simp [camelWords, Function.comp_def]

theorem splitWords_of_camel {name : String} (camel : NameStyle.ofName name = .camel) :
    splitWords name = camelWords name.toList := by
  rw [splitWords, camel]

theorem splitWords_of_snake {name : String} (snake : NameStyle.ofName name = .snake) :
    splitWords name = snakeWords name.toList := by
  rw [splitWords, snake]

theorem letters_or_digits_of_mem_splitWords {name : String} {word : Word}
    (member : word ∈ splitWords name) :
    (∀ c ∈ word.text.toList, c.isAlpha = true) ∨
      ∀ c ∈ word.text.toList, Text.isDigit c = true := by
  have inside := List.mem_map_of_mem (f := fun word : Word => word.text.toList) member
  cases style : NameStyle.ofName name with
  | camel =>
      rw [splitWords_of_camel style, texts_camelWords] at inside
      exact camelWordLength_local.letters_or_digits (fun _ _ _ differ => .inl differ) inside
  | snake =>
      rw [splitWords_of_snake style, texts_snakeWords] at inside
      exact snakeWordLength_local.letters_or_digits (fun _ _ _ differ => differ) inside

/-- Splitting loses no letter and no digit of a name. In camel style, words end at the boundaries of
this style. In snake style, words are the maximal runs of letters and of digits, and joined again
they are the name without the characters of no word and with single underscores. No word is empty,
and each one is all letters or all digits. -/
theorem splitWords_boundaries (name : String) :
    (NameStyle.ofName name = .camel →
      ((splitWords name).flatMap fun word => word.text.toList) =
        name.toList.filter isWordChar ∧
      ∃ words, CutAt CamelBoundary name.toList
        ((splitWords name).map fun word => word.text.toList) words) ∧
    (NameStyle.ofName name = .snake →
      ((splitWords name).map fun word => word.text.toList) = letterRuns name.toList ∧
      (∃ words, CutAt SnakeBoundary name.toList
        ((splitWords name).map fun word => word.text.toList) words) ∧
      (splitWords name).flatMap Word.joined =
        stripUnderscores (collapseUnderscores (name.toList.filter isSnakeChar))) ∧
    ∀ word ∈ splitWords name, word.text ≠ "" ∧
      ((∀ c ∈ word.text.toList, c.isAlpha = true) ∨
        ∀ c ∈ word.text.toList, Text.isDigit c = true) := by
  refine ⟨fun camel => ?_, fun snake => ?_, fun word member =>
    ⟨text_ne_of_mem_splitWords member, letters_or_digits_of_mem_splitWords member⟩⟩
  · rw [List.flatMap_def, splitWords_of_camel camel, texts_camelWords]
    exact ⟨(camelWordLength_local.pieces_scan _).flatten, camelWordLength_local.exists_cutAt _⟩
  · rw [splitWords_of_snake snake, texts_snakeWords]
    exact ⟨(snakeWordLength_local.pieces_scan _).eq_letterRuns,
      snakeWordLength_local.exists_cutAt _, flatMap_joined_snakeWords _⟩

/-- An acronym leaves its last capital to the next word, and characters of no word are dropped; in
snake style capitals do not matter, and pieces without words join nothing. -/
theorem splitWords_boundaries_acronym :
    let camel := "anURLValue٣é1"
    let snake := "_an__é__URLValue٣_"
    (NameStyle.ofName camel = .camel ∧
      ((splitWords camel).flatMap fun word => word.text.toList) = "anURLValue٣1".toList ∧
      ∃ words, CutAt CamelBoundary camel.toList
          ((splitWords camel).map fun word => word.text.toList) words ∧
        Together words ('R', 3) ('L', 4) ∧ ¬ Together words ('L', 4) ('V', 5)) ∧
    NameStyle.ofName snake = .snake ∧
      ((splitWords snake).map fun word => word.text.toList) =
        ["an".toList, "URLValue".toList, "٣".toList] ∧
      (splitWords snake).flatMap Word.joined = "an_URLValue٣".toList := by
  intro camel snake
  obtain ⟨ofCamel, -, -⟩ := splitWords_boundaries camel
  obtain ⟨-, ofSnake, -⟩ := splitWords_boundaries snake
  have isCamel : NameStyle.ofName camel = .camel := by decide +kernel
  have isSnake : NameStyle.ofName snake = .snake := by decide +kernel
  obtain ⟨kept, words, cut⟩ := ofCamel isCamel
  obtain ⟨texts, -, joined⟩ := ofSnake isSnake
  refine ⟨⟨isCamel, kept.trans (by decide +kernel), words, cut, ?_, ?_⟩, isSnake,
    texts.trans (by decide +kernel), joined.trans (by decide +kernel)⟩
  · have inside := cut.neighbours ['a', 'n', 'U'] 'R' 'L' ['V', 'a', 'l', 'u', 'e', '٣', 'é', '1']
      (by decide +kernel) (by decide) (by decide)
    have next : ∀ e ∈ some 'V', e.isLower = false := by
      rintro e ⟨⟩
      rfl
    have goesOn := @capital_goesOn_iff 'R' 'L' (some 'V') rfl
    obtain ⟨-, goesOn⟩ := goesOn.mpr (.inr ⟨rfl, next⟩)
    exact not_not.mp (mt inside.mp goesOn)
  · have between := cut.neighbours ['a', 'n', 'U', 'R'] 'L' 'V' ['a', 'l', 'u', 'e', '٣', 'é', '1']
      (by decide +kernel) (by decide) (by decide)
    exact between.mpr (.inr (.inr ⟨rfl, rfl, 'a', rfl, rfl⟩))

end DerivedQuery
