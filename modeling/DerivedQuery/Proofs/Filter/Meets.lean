import DerivedQuery.Store

/-!
# What filters ask of records

A record meets a comparison when the datum under the field has a store value of which the comparison
holds, and it meets a joined filter when it meets all parts. Trying a filter answers exactly this,
unless it comes across a datum without a store value; parts behind one that is not met are not
tried.
-/

set_option autoImplicit false

namespace DerivedQuery

/-- The datum has a store value. -/
def Datum.Wraps (datum : Datum) : Prop := ∃ value, datum.wrap = .ok value

namespace Filter

mutual

/-- The record meets the filter. -/
def Meets (record : Record) : Filter → Prop
  | .property field comparison target =>
      ∃ datum value, Dictionary.get? record field = some datum ∧ datum.wrap = .ok value ∧
        value.satisfies comparison target = true
  | .composite _ filters => MeetsAll record filters

/-- The record meets all filters. -/
def MeetsAll (record : Record) : List Filter → Prop
  | [] => True
  | filter :: others => Meets record filter ∧ MeetsAll record others

end

mutual

/-- All data of the record that are touched when the filter is tried have store values. -/
def TouchesWrapped (record : Record) : Filter → Prop
  | .property field _ _ => ∀ datum, Dictionary.get? record field = some datum → datum.Wraps
  | .composite _ filters => TouchesAllWrapped record filters

/-- All data of the record that are touched when the filters are tried in order have store values;
filters behind one that is not met touch nothing. -/
def TouchesAllWrapped (record : Record) : List Filter → Prop
  | [] => True
  | filter :: others =>
      TouchesWrapped record filter ∧ (Meets record filter → TouchesAllWrapped record others)

end

theorem meetsAll_iff {record : Record} {filters : List Filter} :
    MeetsAll record filters ↔ ∀ filter ∈ filters, Meets record filter := by
  induction filters with
  | nil => simp [MeetsAll]
  | cons filter others ih => simp [MeetsAll, ih]

theorem touchesAll_of_forall {record : Record} {filters : List Filter}
    (touched : ∀ filter ∈ filters, TouchesWrapped record filter) :
    TouchesAllWrapped record filters := by
  induction filters with
  | nil => simp [TouchesAllWrapped]
  | cons filter others ih =>
      rw [TouchesAllWrapped]
      exact ⟨touched filter (by simp), fun _ =>
        ih fun other member => touched other (by simp [member])⟩

/-- A comparison is decided on the store value of the datum under its field. -/
theorem matches?_property {record : Record} {field : String} {datum : Datum} {stored : Value}
    (found : Dictionary.get? record field = some datum) (wrapped : datum.wrap = .ok stored)
    (comparison : Comparison) (target : Value) :
    matches? record (.property field comparison target) =
      .ok (stored.satisfies comparison target) := by
  rw [matches?, propertyMatches, found]
  simp only [wrapped, Except.map]

theorem propertyMatches_iff {record : Record} {field : String} {comparison : Comparison}
    {target : Value} (touched : TouchesWrapped record (.property field comparison target)) :
    ∃ met, propertyMatches field comparison target record = .ok met ∧
      (met = true ↔ Meets record (.property field comparison target)) := by
  simp only [TouchesWrapped] at touched
  simp only [propertyMatches, Meets]
  cases found : Dictionary.get? record field with
  | none => exact ⟨false, rfl, by simp⟩
  | some datum =>
      obtain ⟨value, wrapped⟩ := touched datum found
      exact ⟨value.satisfies comparison target, by simp [wrapped, Except.map], by simp [wrapped]⟩

mutual

/-- Trying a filter that touches nothing but data with store values tells whether it is met. -/
theorem matches?_iff {record : Record} :
    (filter : Filter) → TouchesWrapped record filter →
      ∃ met, matches? record filter = .ok met ∧ (met = true ↔ Meets record filter)
  | .property field comparison target, touched => by
      simpa only [matches?] using propertyMatches_iff touched
  | .composite junction filters, touched => by
      simpa only [matches?, Meets, TouchesWrapped] using
        matchesAll?_iff filters (by simpa only [TouchesWrapped] using touched)

theorem matchesAll?_iff {record : Record} :
    (filters : List Filter) → TouchesAllWrapped record filters →
      ∃ met, matchesAll? record filters = .ok met ∧ (met = true ↔ MeetsAll record filters)
  | [], _ => ⟨true, rfl, by simp [MeetsAll]⟩
  | filter :: others, touched => by
      obtain ⟨touchedFirst, touchedRest⟩ := by simpa only [TouchesAllWrapped] using touched
      obtain ⟨met, tried, iff⟩ := matches?_iff filter touchedFirst
      cases met with
      | false =>
          refine ⟨false, by simp [matchesAll?, tried, bind, Except.bind], ?_⟩
          simp only [MeetsAll]
          exact ⟨fun contra => by simp at contra, fun both => iff.mpr both.1⟩
      | true =>
          have meets := iff.mp rfl
          obtain ⟨metRest, triedRest, iffRest⟩ := matchesAll?_iff others (touchedRest meets)
          refine ⟨metRest, by simp [matchesAll?, tried, triedRest, bind, Except.bind], ?_⟩
          simp only [MeetsAll, iffRest]
          exact ⟨fun rest => ⟨meets, rest⟩, fun both => both.2⟩

end

end Filter

open Classical in
theorem Store.filterRecords_eq {filter : Filter} {records : List Record}
    (touched : ∀ record ∈ records, filter.TouchesWrapped record) :
    Store.filterRecords filter records =
      .ok (records.filter fun record => filter.Meets record) := by
  induction records with
  | nil => rfl
  | cons record rest ih =>
      obtain ⟨met, tried, iff⟩ := filter.matches?_iff (touched record (by simp))
      have others := ih fun other member => touched other (by simp [member])
      cases met with
      | false =>
          have misses : ¬ filter.Meets record := fun meets => by simpa using iff.mpr meets
          simp [filterRecords, tried, others, misses, bind, Except.bind]
      | true => simp [filterRecords, tried, others, iff.mp rfl, bind, Except.bind]

end DerivedQuery
