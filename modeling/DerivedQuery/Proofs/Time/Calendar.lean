import DerivedQuery.Proofs.Time.Iso
import Mathlib.Order.Monotone.Basic

/-!
# Days and instants are counted without gaps

Years and months begin where the ones before them end, so that a day number belongs to one date and
an instant to one date and time in UTC.
-/

set_option autoImplicit false

namespace DerivedQuery

/-- A number lies in one of the stretches that begin one after the other. -/
theorem eq_of_stretch {start : Nat → Nat} (rising : Monotone start) {i j n : Nat}
    (after : start i ≤ n) (before : n < start (i + 1)) (afterOther : start j ≤ n)
    (beforeOther : n < start (j + 1)) : i = j := by
  rcases Nat.lt_trichotomy i j with less | same | greater
  · exact absurd (before.trans_le (rising less)) afterOther.not_gt
  · exact same
  · exact absurd (beforeOther.trans_le (rising greater)) after.not_gt

theorem isLeapYear_iff (year : Nat) :
    isLeapYear year = true ↔ year % 4 = 0 ∧ (year % 100 ≠ 0 ∨ year % 400 = 0) := by
  simp [isLeapYear]

theorem daysBeforeYear_succ (past : Nat) :
    daysBeforeYear (past + 2) =
      daysBeforeYear (past + 1) + if isLeapYear (past + 1) then 366 else 365 := by
  have after : daysBeforeYear (past + 2) =
      365 * (past + 1) + (past + 1) / 4 - (past + 1) / 100 + (past + 1) / 400 := rfl
  have before : daysBeforeYear (past + 1) = 365 * past + past / 4 - past / 100 + past / 400 := rfl
  have leap_iff := isLeapYear_iff (past + 1)
  rw [after, before]
  cases leap : isLeapYear (past + 1) with
  | true =>
      have multiples := leap_iff.mp leap
      rw [if_pos rfl]
      omega
  | false =>
      have multiples : ¬ _ := fun both => Bool.false_ne_true (leap.symm.trans (leap_iff.mpr both))
      rw [if_neg Bool.false_ne_true]
      omega

theorem monotone_daysBeforeYear : Monotone daysBeforeYear := by
  refine monotone_nat_of_le_succ fun year => ?_
  cases year with
  | zero => exact Nat.zero_le _
  | succ past =>
      rw [daysBeforeYear_succ]
      exact Nat.le_add_right _ _

theorem daysBeforeMonth_succ {year month : Nat} (positive : 1 ≤ month) :
    daysBeforeMonth year (month + 1) = daysBeforeMonth year month + daysInMonth year month := by
  obtain ⟨past, rfl⟩ := Nat.exists_eq_add_of_le' positive
  rfl

theorem monotone_daysBeforeMonth (year : Nat) : Monotone (daysBeforeMonth year) := by
  refine monotone_nat_of_le_succ fun month => ?_
  cases month with
  | zero => exact Nat.zero_le _
  | succ past =>
      rw [daysBeforeMonth_succ (Nat.le_add_left 1 past)]
      exact Nat.le_add_right _ _

theorem daysBeforeMonth_thirteen (year : Nat) :
    daysBeforeMonth year 13 = if isLeapYear year then 366 else 365 := by
  have months : daysBeforeMonth year 13 =
      0 + 31 + daysInMonth year 2 + 31 + 30 + 31 + 30 + 31 + 31 + 30 + 31 + 30 + 31 := rfl
  rw [months, daysInMonth, if_pos rfl]
  split_ifs <;> rfl

namespace Date

/-- The number of days from the first of January of the year of a date. -/
def dayOfYear (d : Date) : Nat := daysBeforeMonth d.year d.month + (d.day - 1)

theorem dayNumber_eq (d : Date) : d.dayNumber = daysBeforeYear d.year + d.dayOfYear :=
  Nat.add_assoc _ _ _

theorem dayOfYear_lt_month (d : Date) : d.dayOfYear < daysBeforeMonth d.year (d.month + 1) := by
  have day := d.day_range
  rw [dayOfYear, daysBeforeMonth_succ d.month_range.1]
  omega

theorem dayNumber_lt_year (d : Date) : d.dayNumber < daysBeforeYear (d.year + 1) := by
  have inMonth := d.dayOfYear_lt_month
  have inYear : daysBeforeMonth d.year (d.month + 1) ≤ daysBeforeMonth d.year 13 :=
    monotone_daysBeforeMonth d.year (Nat.succ_le_succ d.month_range.2)
  rw [daysBeforeMonth_thirteen] at inYear
  obtain ⟨past, isYear⟩ := Nat.exists_eq_add_of_le' d.year_range.1
  rw [dayNumber_eq, isYear, daysBeforeYear_succ, ← isYear]
  omega

theorem ext_numbers {d e : Date} (year : d.year = e.year) (month : d.month = e.month)
    (day : d.day = e.day) : d = e := by
  obtain ⟨_, _, _, _, _, _⟩ := d
  obtain ⟨_, _, _, _, _, _⟩ := e
  simp_all

theorem dayNumber_injective {d e : Date} (same : d.dayNumber = e.dayNumber) : d = e := by
  have startD : daysBeforeYear d.year ≤ d.dayNumber := d.dayNumber_eq ▸ Nat.le_add_right _ _
  have startE : daysBeforeYear e.year ≤ d.dayNumber := by
    rw [same, e.dayNumber_eq]
    exact Nat.le_add_right _ _
  have years : d.year = e.year :=
    eq_of_stretch monotone_daysBeforeYear startD d.dayNumber_lt_year startE
      (same ▸ e.dayNumber_lt_year)
  have days : d.dayOfYear = e.dayOfYear := by
    rw [d.dayNumber_eq, e.dayNumber_eq, years] at same
    exact Nat.add_left_cancel same
  have inMonth := e.dayOfYear_lt_month
  rw [← days, ← years] at inMonth
  have startMonth : daysBeforeMonth d.year e.month ≤ d.dayOfYear := by
    rw [days, dayOfYear, years]
    exact Nat.le_add_right _ _
  have months : d.month = e.month :=
    eq_of_stretch (monotone_daysBeforeMonth d.year) (Nat.le_add_right _ _) d.dayOfYear_lt_month
      startMonth inMonth
  refine ext_numbers years months ?_
  have dayD := d.day_range
  have dayE := e.day_range
  rw [dayOfYear, dayOfYear, years, months] at days
  omega

end Date

namespace DateTime

theorem microsecondOfDay_lt (t : DateTime) : t.microsecondOfDay < 86400000000 := by
  have hour := t.hour.isLt
  have minute := t.minute.isLt
  have second := t.second.isLt
  have microsecond := t.microsecond.isLt
  rw [microsecondOfDay]
  omega

theorem sinceStart_injective {s t : DateTime} (same : s.sinceStart = t.sinceStart) : s = t := by
  have boundS := s.microsecondOfDay_lt
  have boundT := t.microsecondOfDay_lt
  rw [sinceStart, sinceStart] at same
  have dates : s.date = t.date := Date.dayNumber_injective (by omega)
  have times : s.microsecondOfDay = t.microsecondOfDay := by
    rw [dates] at same
    exact Nat.add_left_cancel same
  rw [microsecondOfDay, microsecondOfDay] at times
  -- The fields are the digits of the time of day, in mixed radix.
  have hours : s.hour = t.hour := Fin.ext (by omega)
  have minutes : s.minute = t.minute := Fin.ext (by omega)
  have seconds : s.second = t.second := Fin.ext (by omega)
  have microseconds : s.microsecond = t.microsecond := Fin.ext (by omega)
  refine ext_fields ?_ ?_ ?_ hours minutes seconds microseconds
  · rw [dates]
  · rw [dates]
  · rw [dates]

end DateTime

end DerivedQuery
