import DerivedQuery.Proofs.Time.DayNumber
import Mathlib.Order.Compare

/-!
# Instants

A date and a time in UTC are determined by their instant and found by it, wherever the instant lies
in the years 1 to 9999. Comparing them field by field compares their instants: whatever the later
fields are, a difference in an earlier one outweighs them.
-/

set_option autoImplicit false

namespace DerivedQuery

namespace DateTime

theorem microsecondOfDay_ofNumbers (date : Date) (n : Nat) :
    (ofNumbers date (n / 3600000000) (n / 60000000) (n / 1000000) n).microsecondOfDay =
      n % 86400000000 := by
  simp only [microsecondOfDay, ofNumbers, Fin.val_ofNat]
  omega

theorem sinceStart_ofNumbers {date : Date} {n : Nat} (isDay : date.dayNumber = n / 86400000000) :
    (ofNumbers date (n / 3600000000) (n / 60000000) (n / 1000000) n).sinceStart = n := by
  rw [sinceStart, microsecondOfDay_ofNumbers]
  change date.dayNumber * 86400000000 + n % 86400000000 = n
  omega

theorem ofSinceStart?_eq_some_iff {microseconds : Int} {t : DateTime} :
    ofSinceStart? microseconds = some t ↔ (t.sinceStart : Int) = microseconds := by
  unfold ofSinceStart?
  split
  · exact ⟨(nomatch ·), fun same => by omega⟩
  · rename_i notBefore
    obtain ⟨n, rfl⟩ := Int.eq_ofNat_of_zero_le (Int.not_lt.mp notBefore)
    rw [Int.toNat_natCast, Int.natCast_inj, Option.map_eq_some_iff]
    constructor
    · rintro ⟨date, isDate, rfl⟩
      exact sinceStart_ofNumbers (Date.ofDayNumber?_eq_some_iff.mp isDate)
    · intro same
      have time := t.microsecondOfDay_lt
      have isDay : t.date.dayNumber = n / 86400000000 := by
        rw [sinceStart] at same
        omega
      refine ⟨t.date, Date.ofDayNumber?_eq_some_iff.mpr isDay, ?_⟩
      exact sinceStart_injective ((sinceStart_ofNumbers isDay).trans same.symm)

theorem sinceStart_lt (t : DateTime) : t.sinceStart < daysBeforeYear 10000 * 86400000000 := by
  have day := t.date.dayNumber_lt
  have time := t.microsecondOfDay_lt
  rw [sinceStart]
  omega

/-- Every microsecond of the years 1 to 9999 has a date and a time. -/
theorem exists_sinceStart {n : Nat} (inYears : n < daysBeforeYear 10000 * 86400000000) :
    ∃ t : DateTime, t.sinceStart = n := by
  obtain ⟨date, isDay⟩ := Date.exists_dayNumber (Nat.div_lt_of_lt_mul (Nat.mul_comm _ _ ▸ inYears))
  exact ⟨_, sinceStart_ofNumbers isDay⟩

end DateTime

namespace Moment

/-- The clock, moved by the offset, stays within the years 1 to 9999. -/
def InCalendar (m : Moment) : Prop :=
  0 ≤ m.instant ∧ m.instant < daysBeforeYear 10000 * 86400000000

instance (m : Moment) : Decidable m.InCalendar :=
  inferInstanceAs (Decidable (0 ≤ m.instant ∧ m.instant < daysBeforeYear 10000 * 86400000000))

theorem instant_ofUtc (t : DateTime) : (ofUtc t).instant = t.sinceStart := by
  simp [instant, ofUtc, Offset.zero]

theorem utc?_eq_some_iff {m : Moment} {t : DateTime} :
    m.utc? = some t ↔ (ofUtc t).instant = m.instant := by
  rw [instant_ofUtc]
  unfold utc?
  split
  · rename_i naive
    have sinceStart : m.instant = m.clock.sinceStart := by simp [instant, naive]
    rw [sinceStart, Int.natCast_inj]
    constructor
    · intro same
      rw [Option.some.inj same]
    · intro same
      rw [DateTime.sinceStart_injective same]
  · exact DateTime.ofSinceStart?_eq_some_iff

theorem exists_utc?_iff {m : Moment} : (∃ t, m.utc? = some t) ↔ m.InCalendar := by
  constructor
  · rintro ⟨t, found⟩
    have same := utc?_eq_some_iff.mp found
    have bound := t.sinceStart_lt
    rw [instant_ofUtc] at same
    rw [InCalendar, ← same]
    omega
  · intro ⟨notBefore, before⟩
    obtain ⟨n, isInstant⟩ := Int.eq_ofNat_of_zero_le notBefore
    rw [isInstant] at before
    obtain ⟨t, rfl⟩ := DateTime.exists_sinceStart (Int.ofNat_lt.mp before)
    exact ⟨t, utc?_eq_some_iff.mpr ((instant_ofUtc t).trans isInstant.symm)⟩

theorem utc?_eq_none_iff {m : Moment} : m.utc? = none ↔ ¬ m.InCalendar := by
  rw [← exists_utc?_iff, Option.eq_none_iff_forall_ne_some, not_exists]

end Moment

/-! ## The order of instants -/

/-- A first number that decides the order of what two lists stand for comes before the others. -/
theorem compareLists_compares_cons {a b m n : Nat} {restA restB : List Nat}
    (below : a < b → m < n) (above : b < a → n < m)
    (level : a = b → (compareLists restA restB).Compares m n) :
    (compareLists (a :: restA) (b :: restB)).Compares m n := by
  rw [compareLists]
  rcases Nat.lt_trichotomy a b with less | same | greater
  · rw [if_pos less]
    exact below less
  · rw [if_neg same.not_lt, if_neg same.not_gt]
    exact level same
  · rw [if_neg (Nat.lt_asymm greater), if_pos greater]
    exact above greater

namespace DateTime

variable {s t : DateTime}

theorem sinceStart_lt_of_dayNumber_lt (earlier : s.date.dayNumber < t.date.dayNumber) :
    s.sinceStart < t.sinceStart := by
  have time := s.microsecondOfDay_lt
  rw [sinceStart, sinceStart]
  omega

theorem sinceStart_lt_of_year_lt (earlier : s.date.year < t.date.year) :
    s.sinceStart < t.sinceStart := by
  apply sinceStart_lt_of_dayNumber_lt
  calc
    s.date.dayNumber < daysBeforeYear (s.date.year + 1) := s.date.dayNumber_lt_year
    _ ≤ daysBeforeYear t.date.year := monotone_daysBeforeYear earlier
    _ ≤ t.date.dayNumber := t.date.dayNumber_eq ▸ Nat.le_add_right _ _

theorem sinceStart_lt_of_month_lt (year : s.date.year = t.date.year)
    (earlier : s.date.month < t.date.month) : s.sinceStart < t.sinceStart := by
  apply sinceStart_lt_of_dayNumber_lt
  rw [Date.dayNumber_eq, Date.dayNumber_eq, year]
  apply Nat.add_lt_add_left
  calc
    s.date.dayOfYear < daysBeforeMonth s.date.year (s.date.month + 1) := s.date.dayOfYear_lt_month
    _ ≤ daysBeforeMonth s.date.year t.date.month := monotone_daysBeforeMonth s.date.year earlier
    _ ≤ t.date.dayOfYear := year ▸ Nat.le_add_right _ _

theorem sinceStart_lt_of_day_lt (year : s.date.year = t.date.year)
    (month : s.date.month = t.date.month) (earlier : s.date.day < t.date.day) :
    s.sinceStart < t.sinceStart := by
  have positive := s.date.day_range.1
  apply sinceStart_lt_of_dayNumber_lt
  rw [Date.dayNumber, Date.dayNumber, year, month]
  omega

theorem compareLists_times (date : s.date = t.date) :
    (compareLists [s.hour.val, s.minute.val, s.second.val, s.microsecond.val]
      [t.hour.val, t.minute.val, t.second.val, t.microsecond.val]).Compares
        s.sinceStart t.sinceStart := by
  have minuteS := s.minute.isLt
  have minuteT := t.minute.isLt
  have secondS := s.second.isLt
  have secondT := t.second.isLt
  have microsecondS := s.microsecond.isLt
  have microsecondT := t.microsecond.isLt
  rw [sinceStart, sinceStart, microsecondOfDay, microsecondOfDay, date]
  refine compareLists_compares_cons (fun less => ?_) (fun greater => ?_) fun hour => ?_
  · omega
  · omega
  refine compareLists_compares_cons (fun less => ?_) (fun greater => ?_) fun minute => ?_
  · omega
  · omega
  refine compareLists_compares_cons (fun less => ?_) (fun greater => ?_) fun second => ?_
  · omega
  · omega
  refine compareLists_compares_cons (fun less => ?_) (fun greater => ?_) fun microsecond => ?_
  · omega
  · omega
  · change _ = _
    omega

/-- The first field in which two moments of the calendar differ tells which one is earlier. -/
theorem compare_compares (s t : DateTime) : (s.compare t).Compares s.sinceStart t.sinceStart := by
  refine compareLists_compares_cons sinceStart_lt_of_year_lt sinceStart_lt_of_year_lt fun year => ?_
  refine compareLists_compares_cons (sinceStart_lt_of_month_lt year)
    (sinceStart_lt_of_month_lt year.symm) fun month => ?_
  refine compareLists_compares_cons (sinceStart_lt_of_day_lt year month)
    (sinceStart_lt_of_day_lt year.symm month.symm) fun day => ?_
  exact compareLists_times (Date.ext_numbers year month day)

end DateTime

end DerivedQuery
