import DerivedQuery.Proofs.Time.Calendar

/-!
# Dates are found by their day numbers

The year of a day is guessed from the average length of a year. The guess is off by one at most, as
the years before it are never more than two days longer or shorter than the average. The month is
counted. Every day of the years 1 to 9999 has a date, and it is the date that is found.
-/

set_option autoImplicit false

namespace DerivedQuery

/-- A number below the end of the last stretch lies in one of them. -/
theorem exists_stretch {start : Nat → Nat} {first past n : Nat} (order : first ≤ past)
    (after : start first ≤ n) (before : n < start past) :
    ∃ i, first ≤ i ∧ i < past ∧ start i ≤ n ∧ n < start (i + 1) := by
  induction past, order using Nat.le_induction with
  | base => omega
  | succ past order ih =>
      by_cases inLast : start past ≤ n
      · exact ⟨past, order, Nat.lt_succ_self past, inLast, before⟩
      · obtain ⟨i, notBefore, isBefore, stretch⟩ := ih (by omega)
        exact ⟨i, notBefore, by omega, stretch⟩

/-- Four hundred years have 146097 days, and no run of years is far from this average. -/
theorem daysBeforeYear_average (past : Nat) :
    146097 * past ≤ 400 * daysBeforeYear (past + 1) + 699 ∧
      400 * daysBeforeYear (past + 1) ≤ 146097 * past + 396 := by
  have days : daysBeforeYear (past + 1) = 365 * past + past / 4 - past / 100 + past / 400 := rfl
  rw [days]
  omega

theorem yearOfDay_stretch (n : Nat) :
    daysBeforeYear (yearOfDay n) ≤ n ∧ n < daysBeforeYear (yearOfDay n + 1) := by
  obtain ⟨past, isPast⟩ : ∃ past, n * 400 / 146097 = past := ⟨_, rfl⟩
  have average : 146097 * past ≤ 400 * n ∧ 400 * n < 146097 * (past + 1) := by omega
  have here := daysBeforeYear_average past
  have later := daysBeforeYear_average (past + 1 + 1)
  have first : daysBeforeYear 1 = 0 := rfl
  unfold yearOfDay
  rw [isPast]
  dsimp only
  split
  · rename_i early
    refine ⟨?_, early⟩
    rw [Nat.add_sub_cancel]
    cases past with
    | zero => omega
    | succ earlier =>
        have before := daysBeforeYear_average earlier
        omega
  · rename_i notEarly
    split
    · rename_i late
      refine ⟨late, ?_⟩
      omega
    · rename_i notLate
      exact ⟨Nat.le_of_not_lt notEarly, Nat.lt_of_not_le notLate⟩

theorem yearOfDay_eq {n year : Nat} (after : daysBeforeYear year ≤ n)
    (before : n < daysBeforeYear (year + 1)) : yearOfDay n = year := by
  obtain ⟨afterFound, beforeFound⟩ := yearOfDay_stretch n
  exact eq_of_stretch monotone_daysBeforeYear afterFound beforeFound after before

theorem yearOfDay_pos (n : Nat) : 1 ≤ yearOfDay n := by
  have before := (yearOfDay_stretch n).2
  rcases Nat.eq_zero_or_pos (yearOfDay n) with zero | positive
  · rw [zero] at before
    exact absurd before (Nat.not_lt_zero n)
  · exact positive

/-- As many months have begun by a day as are counted up to its month. -/
theorem monthOfDay_eq {year month day : Nat} (bound : month ≤ 12)
    (after : daysBeforeMonth year month ≤ day) (before : day < daysBeforeMonth year (month + 1)) :
    monthOfDay year day = month := by
  obtain ⟨rest, twelve⟩ := Nat.exists_eq_add_of_le bound
  have begun : ∀ k ∈ List.range month, decide (daysBeforeMonth year (k + 1) ≤ day) = true := by
    intro k member
    have rising := monotone_daysBeforeMonth year (Nat.succ_le_of_lt (List.mem_range.mp member))
    exact decide_eq_true (rising.trans after)
  have notBegun : ∀ k ∈ (List.range rest).map (month + ·),
      ¬ decide (daysBeforeMonth year (k + 1) ≤ day) = true := by
    intro k member
    obtain ⟨more, -, rfl⟩ := List.mem_map.mp member
    have rising := @monotone_daysBeforeMonth year (month + 1) (month + more + 1) (by omega)
    rw [decide_eq_true_eq]
    exact (before.trans_le rising).not_ge
  rw [monthOfDay, twelve, List.range_add, List.filter_append, List.filter_eq_self.mpr begun,
    List.filter_eq_nil_iff.mpr notBegun, List.append_nil, List.length_range]

namespace Date

theorem ofNumbers?_eq_some {year month day : Nat} {d : Date}
    (found : ofNumbers? year month day = some d) :
    d.year = year ∧ d.month = month ∧ d.day = day := by
  unfold ofNumbers? at found
  split at found
  · obtain rfl := Option.some.inj found
    exact ⟨rfl, rfl, rfl⟩
  · cases found

theorem ofNumbers?_numbers (d : Date) : ofNumbers? d.year d.month d.day = some d :=
  dif_pos ⟨d.year_range, d.month_range, d.day_range⟩

theorem ofDayNumber?_dayNumber (d : Date) : ofDayNumber? d.dayNumber = some d := by
  have afterYear : daysBeforeYear d.year ≤ d.dayNumber := d.dayNumber_eq ▸ Nat.le_add_right _ _
  have year : yearOfDay d.dayNumber = d.year := yearOfDay_eq afterYear d.dayNumber_lt_year
  have dayOfYear : d.dayNumber - daysBeforeYear d.year = d.dayOfYear := by
    rw [dayNumber_eq, Nat.add_sub_cancel_left]
  have month : monthOfDay d.year d.dayOfYear = d.month :=
    monthOfDay_eq d.month_range.2 (Nat.le_add_right _ _) d.dayOfYear_lt_month
  have day : d.dayOfYear - daysBeforeMonth d.year d.month + 1 = d.day := by
    have positive := d.day_range.1
    rw [Date.dayOfYear]
    omega
  rw [ofDayNumber?, year, dayOfYear, month, day]
  exact ofNumbers?_numbers d

theorem dayNumber_lt (d : Date) : d.dayNumber < daysBeforeYear 10000 :=
  d.dayNumber_lt_year.trans_le (monotone_daysBeforeYear (Nat.succ_le_succ d.year_range.2))

theorem exists_dayNumber {n : Nat} (inYears : n < daysBeforeYear 10000) :
    ∃ d : Date, d.dayNumber = n := by
  obtain ⟨afterYear, beforeYear⟩ := yearOfDay_stretch n
  have yearBound : yearOfDay n ≤ 9999 := by
    by_contra late
    exact absurd ((monotone_daysBeforeYear (Nat.lt_of_not_le late)).trans afterYear)
      inYears.not_ge
  obtain ⟨past, isYear⟩ := Nat.exists_eq_add_of_le' (yearOfDay_pos n)
  obtain ⟨day, isDay⟩ := Nat.exists_eq_add_of_le afterYear
  have inYear : day < daysBeforeMonth (yearOfDay n) 13 := by
    rw [daysBeforeMonth_thirteen]
    rw [isYear, daysBeforeYear_succ, ← isYear] at beforeYear
    omega
  obtain ⟨month, monthPositive, monthBound, afterMonth, beforeMonth⟩ :=
    @exists_stretch (daysBeforeMonth (yearOfDay n)) 1 13 day (by decide) (Nat.zero_le day) inYear
  obtain ⟨dayOfMonth, isDayOfMonth⟩ := Nat.exists_eq_add_of_le afterMonth
  rw [daysBeforeMonth_succ monthPositive] at beforeMonth
  have total : daysBeforeYear (yearOfDay n) + daysBeforeMonth (yearOfDay n) month + dayOfMonth = n :=
    by omega
  exact ⟨⟨yearOfDay n, month, dayOfMonth + 1, ⟨yearOfDay_pos n, yearBound⟩,
    ⟨monthPositive, by omega⟩, ⟨Nat.le_add_left 1 dayOfMonth, by omega⟩⟩, total⟩

theorem ofDayNumber?_eq_some_iff {n : Nat} {d : Date} :
    ofDayNumber? n = some d ↔ d.dayNumber = n := by
  constructor
  · intro found
    have year : d.year = yearOfDay n := (ofNumbers?_eq_some found).1
    have before := (yearOfDay_stretch n).2
    rw [← year] at before
    have last : d.year + 1 ≤ 10000 := Nat.succ_le_succ d.year_range.2
    obtain ⟨other, rfl⟩ := exists_dayNumber (before.trans_le (monotone_daysBeforeYear last))
    rw [ofDayNumber?_dayNumber] at found
    rw [Option.some.inj found]
  · rintro rfl
    exact ofDayNumber?_dayNumber d

end Date

end DerivedQuery
