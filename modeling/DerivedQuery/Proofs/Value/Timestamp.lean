import DerivedQuery.Proofs.Filter.Meets
import DerivedQuery.Proofs.Time.Instant
import DerivedQuery.Proofs.Value.Order

/-!
# Timestamps

A moment is wrapped to the date and time in UTC of its instant, if that lies in the years 1 to 9999,
and fails otherwise. Filters, sort keys, equality and documents see nothing of a timestamp but its
instant.
-/

set_option autoImplicit false

namespace DerivedQuery

namespace Datum

variable {m n : Moment} {s t : DateTime}

theorem wrap_moment_eq_ok_iff :
    (moment m).wrap = .ok (.timestamp t) ↔ (Moment.ofUtc t).instant = m.instant := by
  rw [← Moment.utc?_eq_some_iff, wrap]
  cases m.utc? with
  | none => simp
  | some found => simp

theorem wrap_moment_of_inCalendar (inCalendar : m.InCalendar) :
    ∃ t, (moment m).wrap = .ok (.timestamp t) := by
  obtain ⟨t, found⟩ := Moment.exists_utc?_iff.mpr inCalendar
  exact ⟨t, wrap_moment_eq_ok_iff.mpr (Moment.utc?_eq_some_iff.mp found)⟩

theorem wrap_moment_of_not_inCalendar (outside : ¬ m.InCalendar) :
    (moment m).wrap = .error .momentOutOfRange := by
  rw [wrap, Moment.utc?_eq_none_iff.mpr outside]

theorem compare_eq_of_wrap (first : (moment m).wrap = .ok (.timestamp s))
    (second : (moment n).wrap = .ok (.timestamp t)) :
    s.compare t = compare m.instant n.instant := by
  rw [← wrap_moment_eq_ok_iff.mp first, ← wrap_moment_eq_ok_iff.mp second, Moment.instant_ofUtc,
    Moment.instant_ofUtc, eq_comm, compare_iff]
  have compares := s.compare_compares t
  cases order : s.compare t with
  | lt =>
      rw [order] at compares
      exact Int.ofNat_lt.mpr compares
  | eq =>
      rw [order] at compares
      exact congrArg Int.ofNat compares
  | gt =>
      rw [order] at compares
      exact Int.ofNat_lt.mpr compares

theorem eq_iff_of_wrap (first : (moment m).wrap = .ok (.timestamp s))
    (second : (moment n).wrap = .ok (.timestamp t)) : m.instant = n.instant ↔ s = t := by
  rw [← wrap_moment_eq_ok_iff.mp first, ← wrap_moment_eq_ok_iff.mp second, Moment.instant_ofUtc,
    Moment.instant_ofUtc, Int.natCast_inj]
  exact ⟨DateTime.sinceStart_injective, congrArg DateTime.sinceStart⟩

end Datum

namespace Value

theorem satisfies_timestamp (s t : DateTime) (comparison : Comparison) :
    (timestamp s).satisfies comparison (.timestamp t) = comparison.holds (s.compare t) := by
  have family : (timestamp s).sameFamily (timestamp t) = true := rfl
  have orderable (u : DateTime) : (timestamp u).Orderable := nofun
  exact satisfies_eq_holds family (orderable s) (orderable t) rfl rfl rfl comparison

theorem less_timestamp_iff (s t : DateTime) :
    (timestamp s).sortRank.less (timestamp t).sortRank = true ↔ s.compare t = .lt := by
  have ranks : (timestamp s).sortRank.rank = (timestamp t).sortRank.rank := rfl
  rw [Rank.less_iff_of_rank_eq ranks]
  constructor
  · rintro ⟨x, y, isX, isY, compared⟩
    obtain rfl := Option.some.inj isX
    obtain rfl := Option.some.inj isY
    exact Option.some.inj compared
  · intro earlier
    exact ⟨_, _, rfl, rfl, congrArg some earlier⟩

end Value

/-- Wrapping keeps the instant of a moment and the order of instants. It succeeds exactly if the
clock, moved by the offset, lies in the years 1 to 9999, and gives the date and time in UTC of the
same instant, which is the clock itself where there is no offset. Of two moments that have store
values, filters, sort keys, equality and documents tell what their instants tell. -/
theorem Moment.wrap_keeps_instant (m : Moment) :
    ((∃ value, (Datum.moment m).wrap = .ok value) ↔ m.InCalendar) ∧
    (m.InCalendar →
      ∃ t, (Datum.moment m).wrap = .ok (.timestamp t) ∧ (ofUtc t).instant = m.instant) ∧
    (m.offset = none → (Datum.moment m).wrap = .ok (.timestamp m.clock)) ∧
    (¬ m.InCalendar →
      ∃ failure, (Datum.moment m).wrap = .error failure ∧ failure.failureClass = .overflow) ∧
    ∀ (n : Moment) (s t : DateTime), (Datum.moment m).wrap = .ok (.timestamp s) →
      (Datum.moment n).wrap = .ok (.timestamp t) →
      (∀ record field comparison, Dictionary.get? record field = some (.moment m) →
        (Filter.property field comparison (.timestamp t)).matches? record =
          .ok (comparison.holds (compare m.instant n.instant))) ∧
      ((Value.timestamp s).sortRank.less (Value.timestamp t).sortRank = true ↔
        m.instant < n.instant) ∧
      (m.instant = n.instant ↔ (Value.timestamp s).same (.timestamp t) = true) ∧
      ∃ text other, (Value.timestamp s).rest = .object [("timestampValue", .text text)] ∧
        (Value.timestamp t).rest = .object [("timestampValue", .text other)] ∧
        (m.instant = n.instant ↔ text = other) := by
  refine ⟨⟨?_, fun inCalendar => ?_⟩, fun inCalendar => ?_, fun naive => ?_, fun outside => ?_,
    fun n s t first second => ⟨fun record field comparison found => ?_, ?_, ?_, _, _, rfl, rfl, ?_⟩⟩
  · rintro ⟨value, wrapped⟩
    by_contra outside
    rw [Datum.wrap_moment_of_not_inCalendar outside] at wrapped
    cases wrapped
  · obtain ⟨t, wrapped⟩ := Datum.wrap_moment_of_inCalendar inCalendar
    exact ⟨_, wrapped⟩
  · obtain ⟨t, wrapped⟩ := Datum.wrap_moment_of_inCalendar inCalendar
    exact ⟨t, wrapped, Datum.wrap_moment_eq_ok_iff.mp wrapped⟩
  · apply Datum.wrap_moment_eq_ok_iff.mpr
    simp [instant, naive, ofUtc, Offset.zero]
  · exact ⟨_, Datum.wrap_moment_of_not_inCalendar outside, rfl⟩
  · rw [Filter.matches?_property found first, Value.satisfies_timestamp,
      Datum.compare_eq_of_wrap first second]
  · rw [Value.less_timestamp_iff, Datum.compare_eq_of_wrap first second, compare_lt_iff_lt]
  · rw [Datum.eq_iff_of_wrap first second, Value.same, beq_iff_eq]
  · rw [Datum.eq_iff_of_wrap first second]
    exact ⟨fun same => same ▸ rfl, Moment.text_ofUtc_injective⟩

/-- The last microsecond of a leap day, one microsecond behind UTC, is the first midnight of March,
and so is a minute before the next midnight where it is nearly a day later. One microsecond ahead of
UTC, the first midnight of the calendar has no date in UTC. -/
theorem Moment.wrap_keeps_instant_leapDay :
    let leapDay : Moment := ⟨⟨⟨2024, 2, 29, by decide, by decide, by decide⟩, 23, 59, 59, 999999⟩,
      some ⟨-1, by decide⟩⟩
    let ahead : Moment := ⟨⟨⟨2024, 3, 1, by decide, by decide, by decide⟩, 23, 59, 0, 0⟩,
      some ⟨86340000000, by decide⟩⟩
    let midnight : DateTime := ⟨⟨2024, 3, 1, by decide, by decide, by decide⟩, 0, 0, 0, 0⟩
    let first : Moment := ⟨⟨⟨1, 1, 1, by decide, by decide, by decide⟩, 0, 0, 0, 0⟩,
      some ⟨1, by decide⟩⟩
    (leapDay.InCalendar ∧ ∃ value, (Datum.moment leapDay).wrap = .ok value) ∧
    (Datum.moment ⟨midnight, none⟩).wrap = .ok (.timestamp midnight) ∧
    ((Datum.moment leapDay).wrap = .ok (.timestamp midnight) ∧
      (Datum.moment ahead).wrap = .ok (.timestamp midnight) ∧
      (Filter.property "at" .equal (.timestamp midnight)).matches? [("at", .moment leapDay)] =
        .ok (Comparison.equal.holds (compare leapDay.instant ahead.instant))) ∧
    ¬ first.InCalendar ∧
      ∃ failure, (Datum.moment first).wrap = .error failure ∧ failure.failureClass = .overflow := by
  intro leapDay ahead midnight first
  have inCalendar : leapDay.InCalendar := by decide
  have outside : ¬ first.InCalendar := by decide
  have wrapped : (Datum.moment leapDay).wrap = .ok (.timestamp midnight) :=
    Datum.wrap_moment_eq_ok_iff.mpr (by decide)
  have wrappedAhead : (Datum.moment ahead).wrap = .ok (.timestamp midnight) :=
    Datum.wrap_moment_eq_ok_iff.mpr (by decide)
  obtain ⟨accepted, -, -, -, agree⟩ := leapDay.wrap_keeps_instant
  obtain ⟨-, -, naive, -⟩ := Moment.wrap_keeps_instant ⟨midnight, none⟩
  obtain ⟨-, -, -, refused, -⟩ := first.wrap_keeps_instant
  obtain ⟨filters, -⟩ := agree ahead midnight midnight wrapped wrappedAhead
  exact ⟨⟨inCalendar, accepted.mpr inCalendar⟩, naive rfl,
    ⟨wrapped, wrappedAhead, filters _ "at" .equal rfl⟩, outside, refused outside⟩

end DerivedQuery
