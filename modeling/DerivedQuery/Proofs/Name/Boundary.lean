import DerivedQuery.Name.Word
import DerivedQuery.Proofs.Name.Pieces
import DerivedQuery.Proofs.Text.Ascii

/-!
# Boundaries between words

Where a word ends is decided by the characters on both sides and the one behind them. In both styles
a digit and a letter are in different words; in camel style a capital behind a small letter starts a
word, and so does one behind a capital that a small letter follows.
-/

set_option autoImplicit false

namespace DerivedQuery

/-- A character that belongs to words: an ASCII letter or a decimal digit of any script. -/
def isWordChar (c : Char) : Bool := c.isAlpha || Text.isDigit c

theorem isWordChar_of_isAlphanum {c : Char} (alphanum : c.isAlphanum = true) :
    isWordChar c = true := by
  rw [isWordChar, Text.isDigit_of_isAscii (isAscii_of_isAlphanum alphanum)]
  exact alphanum

/-- One of the characters is a digit and the other one is a letter. -/
def KindsDiffer (c d : Char) : Prop :=
  (Text.isDigit c = true ∧ d.isAlpha = true) ∨ (c.isAlpha = true ∧ Text.isDigit d = true)

instance (c d : Char) : Decidable (KindsDiffer c d) := inferInstanceAs (Decidable (_ ∨ _))

/-- A word ends between neighbours in camel style, in front of this next character. -/
def CamelBoundary (c d : Char) (next : Option Char) : Prop :=
  KindsDiffer c d ∨ (c.isLower = true ∧ d.isUpper = true) ∨
    (c.isUpper = true ∧ d.isUpper = true ∧ ∃ e ∈ next, e.isLower = true)

instance (c d : Char) (next : Option Char) : Decidable (CamelBoundary c d next) :=
  inferInstanceAs (Decidable (_ ∨ _))

/-- A word ends between neighbours in snake style, whatever comes next. -/
def SnakeBoundary (c d : Char) (_next : Option Char) : Prop := KindsDiffer c d

instance (c d : Char) (next : Option Char) : Decidable (SnakeBoundary c d next) :=
  inferInstanceAs (Decidable (KindsDiffer c d))

/-- A character is a capital, a small letter, a digit or none of these. -/
theorem char_cases (c : Char) :
    (c.isUpper = true ∧ c.isLower = false ∧ Text.isDigit c = false) ∨
    (c.isUpper = false ∧ c.isLower = true ∧ Text.isDigit c = false) ∨
    (c.isUpper = false ∧ c.isLower = false ∧ Text.isDigit c = true) ∨
    (c.isUpper = false ∧ c.isLower = false ∧ Text.isDigit c = false) := by
  cases upper : c.isUpper with
  | true =>
      have digit := Text.not_isDigit_of_isAlpha (isAlpha_of_isUpper upper)
      simp [not_isLower_of_isUpper upper, digit]
  | false =>
      cases lower : c.isLower with
      | true => simp [Text.not_isDigit_of_isAlpha (isAlpha_of_isLower lower)]
      | false => simp

theorem isAlpha_eq (c : Char) : c.isAlpha = (c.isUpper || c.isLower) := rfl

theorem kind_cases (c : Char) :
    (c.isAlpha = true ∧ Text.isDigit c = false) ∨ (c.isAlpha = false ∧ Text.isDigit c = true) ∨
    (c.isAlpha = false ∧ Text.isDigit c = false) := by
  cases letter : c.isAlpha with
  | true => simp [Text.not_isDigit_of_isAlpha letter]
  | false => simp

section

variable {c d : Char} {next : Option Char}

theorem capital_goesOn_iff (upper : c.isUpper = true) :
    isWordChar d = true ∧ ¬ CamelBoundary c d next ↔
      d.isLower = true ∨ (d.isUpper = true ∧ ∀ e ∈ next, e.isLower = false) := by
  have lower := not_isLower_of_isUpper upper
  have digit := Text.not_isDigit_of_isAlpha (isAlpha_of_isUpper upper)
  rcases char_cases d with ⟨u, l, g⟩ | ⟨u, l, g⟩ | ⟨u, l, g⟩ | ⟨u, l, g⟩ <;>
    simp [CamelBoundary, KindsDiffer, isWordChar, isAlpha_eq, upper, lower, digit, u, l, g]

theorem small_goesOn_iff (lower : c.isLower = true) :
    isWordChar d = true ∧ ¬ CamelBoundary c d next ↔ d.isLower = true := by
  have upper := not_isUpper_of_isLower lower
  have digit := Text.not_isDigit_of_isAlpha (isAlpha_of_isLower lower)
  rcases char_cases d with ⟨u, l, g⟩ | ⟨u, l, g⟩ | ⟨u, l, g⟩ | ⟨u, l, g⟩ <;>
    simp [CamelBoundary, KindsDiffer, isWordChar, isAlpha_eq, upper, lower, digit, u, l, g]

theorem isAlpha_eq_false_of_digit (digit : Text.isDigit c = true) : c.isAlpha = false := by
  refine Bool.eq_false_iff.mpr fun letter => ?_
  rw [Text.not_isDigit_of_isAlpha letter] at digit
  exact nomatch digit

theorem digit_goesOn_iff (digit : Text.isDigit c = true) :
    isWordChar d = true ∧ ¬ CamelBoundary c d next ↔ Text.isDigit d = true := by
  obtain ⟨upper, lower⟩ := Bool.or_eq_false_iff.mp (isAlpha_eq_false_of_digit digit)
  rcases char_cases d with ⟨u, l, g⟩ | ⟨u, l, g⟩ | ⟨u, l, g⟩ | ⟨u, l, g⟩ <;>
    simp [CamelBoundary, KindsDiffer, isWordChar, isAlpha_eq, upper, lower, digit, u, l, g]

end

section

variable {c d : Char} {rest back : List Char}

/-- Where the piece is a run of elements that pass a test, it goes on as long as they pass. -/
theorem length_of_run {pieceLength : List Char → Nat} {test : Char → Bool}
    (run : ∀ c rest, test c = true → pieceLength (c :: rest) = (rest.takeWhile test).length + 1)
    (passes : test c = true) : pieceLength (c :: d :: back) =
      if test d = true then pieceLength (d :: back) + 1 else 1 := by
  rw [run c _ passes, List.takeWhile_cons]
  split
  · rename_i next
    rw [run d back next, List.length_cons]
  · rfl

theorem camelWordLength_of_small (lower : c.isLower = true) :
    camelWordLength (c :: rest) = (rest.takeWhile Char.isLower).length + 1 := by
  simp [camelWordLength, not_isUpper_of_isLower lower, lower]

theorem camelWordLength_of_digit (digit : Text.isDigit c = true) :
    camelWordLength (c :: rest) = (rest.takeWhile Text.isDigit).length + 1 := by
  obtain ⟨upper, lower⟩ := Bool.or_eq_false_iff.mp (isAlpha_eq_false_of_digit digit)
  simp [camelWordLength, upper, lower, digit]

theorem camelWordLength_of_isUpper (upper : c.isUpper = true) :
    camelWordLength (c :: rest) =
      if startsSmall (rest.dropWhile Char.isUpper) = true then
        if rest.takeWhile Char.isUpper = [] then
          ((rest.dropWhile Char.isUpper).takeWhile Char.isLower).length + 1
        else (rest.takeWhile Char.isUpper).length
      else (rest.takeWhile Char.isUpper).length + 1 := by
  rw [camelWordLength, if_pos upper]
  dsimp only
  cases startsSmall (rest.dropWhile Char.isUpper) <;> simp

theorem startsSmall_eq_false {cs : List Char} :
    startsSmall cs = false ↔ ∀ c ∈ cs.head?, c.isLower = false := by
  cases cs <;> simp [startsSmall]

theorem startsSmall_cons (c : Char) (rest : List Char) : startsSmall (c :: rest) = c.isLower := rfl

/-- Behind a capital the word goes on with small letters, and with another capital that no small
letter follows. -/
theorem camelWordLength_capital (upper : c.isUpper = true) :
    camelWordLength (c :: d :: back) =
      if d.isLower = true ∨ (d.isUpper = true ∧ startsSmall back = false) then
        camelWordLength (d :: back) + 1
      else 1 := by
  rw [camelWordLength_of_isUpper upper]
  rcases char_cases d with ⟨u, l, -⟩ | ⟨u, l, -⟩ | ⟨u, l, -⟩ | ⟨u, l, -⟩
  · rw [camelWordLength_of_isUpper u]
    cases back with
    | nil => simp [u, l, startsSmall]
    | cons e more =>
        rcases char_cases e with ⟨v, m, -⟩ | ⟨v, m, -⟩ | ⟨v, m, -⟩ | ⟨v, m, -⟩
        -- What follows the capitals decides about both lengths.
        · cases follows : startsSmall (more.dropWhile Char.isUpper) <;>
            simp [u, l, v, m, startsSmall_cons, follows]
        · simp [u, l, v, m, startsSmall_cons]
        · simp [u, l, v, m, startsSmall_cons]
        · simp [u, l, v, m, startsSmall_cons]
  · simp [u, l, startsSmall_cons, camelWordLength_of_small l]
  · simp [u, l, startsSmall_cons]
  · simp [u, l, startsSmall_cons]

theorem camelWordLength_cons_cons (isWord : isWordChar c = true) :
    camelWordLength (c :: d :: back) =
      if isWordChar d = true ∧ ¬ CamelBoundary c d back.head? then
        camelWordLength (d :: back) + 1
      else 1 := by
  rcases char_cases c with ⟨upper, lower, digit⟩ | ⟨-, lower, -⟩ | ⟨-, -, digit⟩ |
    ⟨upper, lower, digit⟩
  · rw [camelWordLength_capital upper]
    refine if_congr (Iff.trans ?_ (capital_goesOn_iff upper).symm) rfl rfl
    rw [startsSmall_eq_false]
  · rw [length_of_run (fun _ _ => camelWordLength_of_small) lower]
    exact if_congr (small_goesOn_iff lower).symm rfl rfl
  · rw [length_of_run (fun _ _ => camelWordLength_of_digit) digit]
    exact if_congr (digit_goesOn_iff digit).symm rfl rfl
  · simp [isWordChar, isAlpha_eq, upper, lower, digit] at isWord

theorem snakeWordLength_of_letter (letter : c.isAlpha = true) :
    snakeWordLength (c :: rest) = (rest.takeWhile Char.isAlpha).length + 1 := by
  simp [snakeWordLength, letter]

theorem snakeWordLength_of_digit (digit : Text.isDigit c = true) :
    snakeWordLength (c :: rest) = (rest.takeWhile Text.isDigit).length + 1 := by
  simp [snakeWordLength, isAlpha_eq_false_of_digit digit, digit]

theorem snakeWordLength_cons_cons (isWord : isWordChar c = true) :
    snakeWordLength (c :: d :: back) =
      if isWordChar d = true ∧ ¬ SnakeBoundary c d back.head? then
        snakeWordLength (d :: back) + 1
      else 1 := by
  rcases kind_cases c with ⟨letter, digit⟩ | ⟨letter, digit⟩ | ⟨letter, digit⟩
  · rw [length_of_run (fun _ _ => snakeWordLength_of_letter) letter]
    refine if_congr ?_ rfl rfl
    rcases kind_cases d with ⟨l, g⟩ | ⟨l, g⟩ | ⟨l, g⟩ <;>
      simp [SnakeBoundary, KindsDiffer, isWordChar, letter, digit, l, g]
  · rw [length_of_run (fun _ _ => snakeWordLength_of_digit) digit]
    refine if_congr ?_ rfl rfl
    rcases kind_cases d with ⟨l, g⟩ | ⟨l, g⟩ | ⟨l, g⟩ <;>
      simp [SnakeBoundary, KindsDiffer, isWordChar, letter, digit, l, g]
  · simp [isWordChar, letter, digit] at isWord

end

/-- The word of a character ends in front of a text: at its end, at a character of no word, or at a
boundary. -/
def EndsBy (boundary : Char → Char → Option Char → Prop) (c : Char) (rest : List Char) : Prop :=
  ∀ d back, rest = d :: back → isWordChar d = true → boundary c d back.head?

theorem endsBy_cons {boundary : Char → Char → Option Char → Prop} {c d : Char} {back : List Char} :
    EndsBy boundary c (d :: back) ↔ (isWordChar d = true → boundary c d back.head?) := by
  constructor
  · intro ends isWord
    exact ends d back rfl isWord
  · intro holds e more same isWord
    obtain ⟨rfl, rfl⟩ := List.cons_eq_cons.mp same
    exact holds isWord

theorem localLength_of_cons {pieceLength : List Char → Nat}
    {boundary : Char → Char → Option Char → Prop} [∀ c d next, Decidable (boundary c d next)]
    (dropped : ∀ c rest, isWordChar c = false → pieceLength (c :: rest) = 0)
    (last : ∀ c, isWordChar c = true → pieceLength [c] = 1)
    (next : ∀ c d back, isWordChar c = true → pieceLength (c :: d :: back) =
      if isWordChar d = true ∧ ¬ boundary c d back.head? then pieceLength (d :: back) + 1 else 1) :
    LocalLength pieceLength isWordChar (EndsBy boundary) where
  drop := dropped
  stop c rest isWord ends := by
    cases rest with
    | nil => exact last c isWord
    | cons d back =>
        rw [next c d back isWord, if_neg]
        exact fun ⟨nextWord, inside⟩ => inside (ends d back rfl nextWord)
  grow c rest isWord goesOn := by
    simp only [EndsBy, not_forall] at goesOn
    obtain ⟨d, back, rfl, nextWord, inside⟩ := goesOn
    exact ⟨by rw [next c d back isWord, if_pos ⟨nextWord, inside⟩], d, rfl, nextWord⟩

theorem camelWordLength_local :
    LocalLength camelWordLength isWordChar (EndsBy CamelBoundary) := by
  refine localLength_of_cons (fun c rest dropped => ?_) (fun c isWord => ?_)
    fun c d back isWord => camelWordLength_cons_cons isWord
  · simp only [isWordChar, isAlpha_eq, Bool.or_eq_false_iff] at dropped
    simp [camelWordLength, dropped]
  · simp only [isWordChar, isAlpha_eq, Bool.or_eq_true] at isWord
    rcases isWord with (upper | lower) | digit
    · simp [camelWordLength_of_isUpper upper, startsSmall]
    · simp [camelWordLength_of_small lower]
    · simp [camelWordLength_of_digit digit]

theorem snakeWordLength_local :
    LocalLength snakeWordLength isWordChar (EndsBy SnakeBoundary) := by
  refine localLength_of_cons (fun c rest dropped => ?_) (fun c isWord => ?_)
    fun c d back isWord => snakeWordLength_cons_cons isWord
  · simp only [isWordChar, Bool.or_eq_false_iff] at dropped
    simp [snakeWordLength, dropped]
  · rcases Bool.or_eq_true_iff.mp isWord with letter | digit
    · simp [snakeWordLength_of_letter letter]
    · simp [snakeWordLength_of_digit digit]

end DerivedQuery
