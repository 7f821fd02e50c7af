import DerivedQuery.Proofs.Text.Ascii
import DerivedQuery.Time.Iso
import Mathlib.Data.Nat.Digits.Defs

/-!
# Telling written moments apart

The fields of a date and a time are written with fixed widths, so that each one can be cut off the
front of the text, and the fraction, which is left out where it is zero, is what remains. Moments in
UTC with one text are therefore the same.
-/

set_option autoImplicit false

namespace DerivedQuery

namespace DecimalNotation

theorem toList_padded (width n : Nat) : (padded width n).toList =
    List.replicate (width - (Nat.toDigits 10 n).length) '0' ++ Nat.toDigits 10 n := by
  rw [padded, String.toList_ofList]

theorem digitsValue_zeros (k : Nat) (digits : List Char) :
    Text.digitsValue (List.replicate k '0' ++ digits) = Text.digitsValue digits := by
  induction k with
  | zero => rfl
  | succ k ih =>
      rw [List.replicate_succ, List.cons_append, Text.digitsValue, List.foldl_cons]
      exact ih

theorem digitsValue_padded (width n : Nat) : Text.digitsValue (padded width n).toList = n := by
  rw [toList_padded, digitsValue_zeros, Text.digitsValue_toDigits]

theorem length_padded {width n : Nat} (positive : 0 < width) (fits : n < 10 ^ width) :
    (padded width n).toList.length = width := by
  have short := Nat.toDigits_length 10 n width positive fits
  rw [toList_padded, List.length_append, List.length_replicate]
  omega

/-- Numbers of a fixed width are told apart, whatever follows them. -/
theorem padded_append_inj {width m n : Nat} {tail other : List Char} (positive : 0 < width)
    (fits : m < 10 ^ width) (fitsOther : n < 10 ^ width)
    (same : (padded width m).toList ++ tail = (padded width n).toList ++ other) :
    m = n ∧ tail = other := by
  have lengths : (padded width m).toList.length = (padded width n).toList.length := by
    rw [length_padded positive fits, length_padded positive fitsOther]
  obtain ⟨digits, tails⟩ := List.append_inj same lengths
  refine ⟨?_, tails⟩
  rw [← digitsValue_padded width m, digits, digitsValue_padded]

end DecimalNotation

theorem daysInMonth_le (year month : Nat) : daysInMonth year month ≤ 31 := by
  unfold daysInMonth
  split_ifs <;> omega

namespace DateTime

/-- The fraction, or nothing where it is zero. -/
def fractionText (t : DateTime) : String :=
  if t.microsecond.val = 0 then "" else "." ++ DecimalNotation.padded 6 t.microsecond.val

theorem toList_text (t : DateTime) : (t.text "T").toList =
    (DecimalNotation.padded 4 t.date.year).toList ++ '-' ::
      ((DecimalNotation.padded 2 t.date.month).toList ++ '-' ::
        ((DecimalNotation.padded 2 t.date.day).toList ++ 'T' ::
          ((DecimalNotation.padded 2 t.hour.val).toList ++ ':' ::
            ((DecimalNotation.padded 2 t.minute.val).toList ++ ':' ::
              ((DecimalNotation.padded 2 t.second.val).toList ++ t.fractionText.toList))))) := by
  simp [text, Date.text, fractionText]

theorem fractionText_inj {s t : DateTime} (same : s.fractionText = t.fractionText) :
    s.microsecond = t.microsecond := by
  have bound := s.microsecond.isLt
  have boundOther := t.microsecond.isLt
  unfold fractionText at same
  apply Fin.ext
  split at same
  · rename_i zero
    split at same
    · rename_i zeroOther
      rw [zero, zeroOther]
    · have chars := congrArg String.toList same
      simp at chars
  · split at same
    · have chars := congrArg String.toList same
      simp at chars
    · have chars := congrArg String.toList same
      rw [String.toList_append, String.toList_append] at chars
      have digits := List.append_cancel_left chars
      rw [← List.append_nil (DecimalNotation.padded 6 _).toList,
        ← List.append_nil (DecimalNotation.padded 6 t.microsecond.val).toList] at digits
      exact (DecimalNotation.padded_append_inj (by decide) bound boundOther digits).1

theorem ext_fields {s t : DateTime} (year : s.date.year = t.date.year)
    (month : s.date.month = t.date.month) (day : s.date.day = t.date.day)
    (hour : s.hour = t.hour) (minute : s.minute = t.minute) (second : s.second = t.second)
    (microsecond : s.microsecond = t.microsecond) : s = t := by
  obtain ⟨⟨_, _, _, _, _, _⟩, _, _, _, _⟩ := s
  obtain ⟨⟨_, _, _, _, _, _⟩, _, _, _, _⟩ := t
  simp_all

theorem text_injective {s t : DateTime} (same : s.text "T" = t.text "T") : s = t := by
  have yearBound (t : DateTime) : t.date.year < 10 ^ 4 := by
    have := t.date.year_range
    omega
  have monthBound (t : DateTime) : t.date.month < 10 ^ 2 := by
    have := t.date.month_range
    omega
  have dayBound (t : DateTime) : t.date.day < 10 ^ 2 := by
    have := t.date.day_range
    have := daysInMonth_le t.date.year t.date.month
    omega
  have hourBound (t : DateTime) : t.hour.val < 10 ^ 2 := by omega
  have minuteBound (t : DateTime) : t.minute.val < 10 ^ 2 := by omega
  have secondBound (t : DateTime) : t.second.val < 10 ^ 2 := by omega
  have chars := congrArg String.toList same
  rw [toList_text, toList_text] at chars
  -- Each field is cut off the front of both texts, with the sign behind it.
  obtain ⟨year, chars⟩ := DecimalNotation.padded_append_inj (by decide) (yearBound s)
    (yearBound t) chars
  obtain ⟨month, chars⟩ := DecimalNotation.padded_append_inj (by decide) (monthBound s)
    (monthBound t) (List.cons.inj chars).2
  obtain ⟨day, chars⟩ := DecimalNotation.padded_append_inj (by decide) (dayBound s) (dayBound t)
    (List.cons.inj chars).2
  obtain ⟨hour, chars⟩ := DecimalNotation.padded_append_inj (by decide) (hourBound s)
    (hourBound t) (List.cons.inj chars).2
  obtain ⟨minute, chars⟩ := DecimalNotation.padded_append_inj (by decide) (minuteBound s)
    (minuteBound t) (List.cons.inj chars).2
  obtain ⟨second, chars⟩ := DecimalNotation.padded_append_inj (by decide) (secondBound s)
    (secondBound t) (List.cons.inj chars).2
  exact ext_fields year month day (Fin.ext hour) (Fin.ext minute) (Fin.ext second)
    (fractionText_inj (String.toList_injective chars))

end DateTime

theorem Moment.text_ofUtc_injective {s t : DateTime}
    (same : (Moment.ofUtc s).text "T" = (Moment.ofUtc t).text "T") : s = t := by
  apply DateTime.text_injective
  have chars := congrArg String.toList same
  simp only [Moment.text, Moment.ofUtc, String.toList_append] at chars
  exact String.toList_injective (List.append_cancel_right chars)

end DerivedQuery
