import DerivedQuery.Text.DecimalDigit
import DerivedQuery.Text.LetterCase
import Mathlib.Data.List.Basic

/-!
# ASCII text

On ASCII characters the digits, the capitals and the small forms of all scripts are the usual ones.
-/

set_option autoImplicit false

namespace DerivedQuery

def IsAscii (c : Char) : Prop := c.toNat < 128

instance (c : Char) : Decidable (IsAscii c) := inferInstanceAs (Decidable (c.toNat < 128))

theorem IsAscii.exists_code {c : Char} (ascii : IsAscii c) :
    ∃ code < 128, Char.ofNat code = c :=
  ⟨c.toNat, ascii, Char.ofNat_toNat c⟩

theorem isAscii_of_isUpper {c : Char} (upper : c.isUpper = true) : IsAscii c := by
  obtain ⟨-, bound⟩ : 'A'.val ≤ c.val ∧ c.val ≤ 'Z'.val := of_decide_eq_true upper
  exact Nat.lt_of_le_of_lt (UInt32.le_iff_toNat_le.mp bound) (by decide)

theorem isAscii_of_isLower {c : Char} (lower : c.isLower = true) : IsAscii c := by
  have bound : c.val ≤ 'z'.val := of_decide_eq_true (Bool.and_eq_true_iff.mp lower).2
  exact Nat.lt_of_le_of_lt (UInt32.le_iff_toNat_le.mp bound) (by decide)

theorem isAscii_of_isDigit {c : Char} (digit : c.isDigit = true) : IsAscii c := by
  simp only [Char.isDigit, Bool.and_eq_true, decide_eq_true_eq, UInt32.le_iff_toNat_le] at digit
  exact Nat.lt_of_le_of_lt digit.2 (by decide)

theorem isAlpha_iff {c : Char} : c.isAlpha = true ↔ c.isUpper = true ∨ c.isLower = true :=
  Bool.or_eq_true_iff

theorem isAlphanum_iff {c : Char} : c.isAlphanum = true ↔ c.isAlpha = true ∨ c.isDigit = true :=
  Bool.or_eq_true_iff

theorem isAscii_of_isAlphanum {c : Char} (alphanum : c.isAlphanum = true) : IsAscii c := by
  rw [isAlphanum_iff, isAlpha_iff] at alphanum
  rcases alphanum with (upper | lower) | digit
  · exact isAscii_of_isUpper upper
  · exact isAscii_of_isLower lower
  · exact isAscii_of_isDigit digit

theorem isAlpha_of_isLower {c : Char} (lower : c.isLower = true) : c.isAlpha = true :=
  isAlpha_iff.mpr (.inr lower)

theorem isAlpha_of_isUpper {c : Char} (upper : c.isUpper = true) : c.isAlpha = true :=
  isAlpha_iff.mpr (.inl upper)

theorem isAlphanum_of_isAlpha {c : Char} (alpha : c.isAlpha = true) : c.isAlphanum = true :=
  isAlphanum_iff.mpr (.inl alpha)

theorem isAlphanum_of_isLower {c : Char} (lower : c.isLower = true) : c.isAlphanum = true :=
  isAlphanum_of_isAlpha (isAlpha_of_isLower lower)

theorem isAlphanum_of_isUpper {c : Char} (upper : c.isUpper = true) : c.isAlphanum = true :=
  isAlphanum_of_isAlpha (isAlpha_of_isUpper upper)

theorem isAlphanum_of_isDigit {c : Char} (digit : c.isDigit = true) : c.isAlphanum = true :=
  isAlphanum_iff.mpr (.inr digit)

theorem toDigits_isDigit (n : Nat) : ∀ c ∈ Nat.toDigits 10 n, c.isDigit = true :=
  fun _ member => Nat.isDigit_of_mem_toDigits (by decide) (by decide) member

theorem not_isUpper_of_isLower {c : Char} (lower : c.isLower = true) : c.isUpper = false := by
  have all : ∀ code < 128, (Char.ofNat code).isLower = true →
      (Char.ofNat code).isUpper = false := by
    decide +kernel
  obtain ⟨code, small, rfl⟩ := (isAscii_of_isLower lower).exists_code
  exact all code small lower

theorem not_isLower_of_isUpper {c : Char} (upper : c.isUpper = true) : c.isLower = false := by
  refine Bool.eq_false_iff.mpr fun lower => ?_
  rw [not_isUpper_of_isLower lower] at upper
  exact nomatch upper

theorem not_isAlpha_of_isDigit {c : Char} (digit : c.isDigit = true) :
    c.isUpper = false ∧ c.isLower = false := by
  have all : ∀ code < 128, (Char.ofNat code).isDigit = true →
      (Char.ofNat code).isUpper = false ∧ (Char.ofNat code).isLower = false := by
    decide +kernel
  obtain ⟨code, small, rfl⟩ := (isAscii_of_isDigit digit).exists_code
  exact all code small digit

/-- Capitals stay, and small letters become the capitals that they are the small forms of. -/
theorem toUpper_of_isAlpha {c : Char} (alpha : c.isAlpha = true) :
    c.toUpper.isUpper = true ∧ c.toUpper.toLower = c.toLower ∧
      (c.isUpper = true → c.toUpper = c) ∧ (c.isLower = true → c.toLower = c) := by
  have all : ∀ code < 128, (Char.ofNat code).isAlpha = true →
      (Char.ofNat code).toUpper.isUpper = true ∧
        (Char.ofNat code).toUpper.toLower = (Char.ofNat code).toLower ∧
        ((Char.ofNat code).isUpper = true → (Char.ofNat code).toUpper = Char.ofNat code) ∧
        ((Char.ofNat code).isLower = true → (Char.ofNat code).toLower = Char.ofNat code) := by
    decide +kernel
  obtain ⟨code, small, rfl⟩ := (isAscii_of_isAlphanum (isAlphanum_of_isAlpha alpha)).exists_code
  exact all code small alpha

/-- Digits are the same in small and in capital letters. -/
theorem case_of_isDigit {c : Char} (digit : c.isDigit = true) :
    c.toUpper = c ∧ c.toLower = c := by
  have all : ∀ code < 128, (Char.ofNat code).isDigit = true →
      (Char.ofNat code).toUpper = Char.ofNat code ∧
        (Char.ofNat code).toLower = Char.ofNat code := by
    decide +kernel
  obtain ⟨code, small, rfl⟩ := (isAscii_of_isDigit digit).exists_code
  exact all code small digit

namespace Text

theorem isDigit_of_isAscii {c : Char} (ascii : IsAscii c) : isDigit c = c.isDigit := by
  have all : ∀ code < 128, isDigit (Char.ofNat code) = (Char.ofNat code).isDigit := by
    decide +kernel
  obtain ⟨code, small, rfl⟩ := ascii.exists_code
  exact all code small

theorem not_isDigit_of_isAlpha {c : Char} (alpha : c.isAlpha = true) : isDigit c = false := by
  rw [isDigit_of_isAscii (isAscii_of_isAlphanum (isAlphanum_of_isAlpha alpha))]
  refine Bool.eq_false_iff.mpr fun digit => ?_
  obtain ⟨notUpper, notLower⟩ := not_isAlpha_of_isDigit digit
  simp [isAlpha_iff, notUpper, notLower] at alpha

theorem digitValue?_of_isDigit {c : Char} (digit : c.isDigit = true) :
    digitValue? c = some (c.toNat - '0'.toNat) := by
  have all : ∀ code < 128, (Char.ofNat code).isDigit = true →
      digitValue? (Char.ofNat code) = some ((Char.ofNat code).toNat - '0'.toNat) := by
    decide +kernel
  obtain ⟨code, small, rfl⟩ := (isAscii_of_isDigit digit).exists_code
  exact all code small digit

theorem isCapital_of_isAscii {c : Char} (ascii : IsAscii c) : isCapital c = c.isUpper :=
  if_pos ascii

theorem smallForm_of_isAscii {c : Char} (ascii : IsAscii c) : smallForm c = [c.toLower] :=
  if_pos ascii

theorem lowerAfter_of_isAscii {before cs : List Char} (ascii : ∀ c ∈ cs, IsAscii c) :
    lowerAfter before cs = cs.map Char.toLower := by
  induction cs generalizing before with
  | nil => rfl
  | cons c cs ih =>
      obtain ⟨here, rest⟩ := List.forall_mem_cons.mp ascii
      have notSigma : c ≠ 'Σ' := by
        rintro rfl
        exact absurd here (by decide)
      rw [lowerAfter, if_neg notSigma, smallForm_of_isAscii here, ih rest]
      rfl

theorem lower_of_isAscii {cs : List Char} (ascii : ∀ c ∈ cs, IsAscii c) :
    lower (String.ofList cs) = String.ofList (cs.map Char.toLower) := by
  rw [lower, String.toList_ofList, lowerAfter_of_isAscii ascii]

theorem digitsValue_toDigits (n : Nat) : digitsValue (Nat.toDigits 10 n) = n := by
  have digits : ∀ cs : List Char, (∀ c ∈ cs, c.isDigit = true) → ∀ total,
      cs.foldl (fun total c => total * 10 + (digitValue? c).getD 0) total =
        Nat.ofDigitChars 10 cs total := by
    intro cs
    induction cs with
    | nil => simp
    | cons c cs ih =>
        intro isDigit total
        obtain ⟨here, rest⟩ := List.forall_mem_cons.mp isDigit
        rw [List.foldl_cons, ih rest, Nat.ofDigitChars_cons, digitValue?_of_isDigit here,
          Option.getD_some, Nat.mul_comm]
  rw [digitsValue, digits _ (toDigits_isDigit n)]
  exact Nat.ofDigitChars_ten_toDigits

end Text

end DerivedQuery
