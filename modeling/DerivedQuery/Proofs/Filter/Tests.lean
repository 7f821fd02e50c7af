import DerivedQuery.Proofs.Filter.Meets

/-!
# Filters as lists of tests

However it is nested, a filter comes down to the tests of single fields in it, from left to right.
They are made one by one, up to the first that is not passed or fails.
-/

set_option autoImplicit false

namespace DerivedQuery

/-- A comparison of one field with a value. -/
structure FieldTest where
  field : String
  comparison : Comparison
  target : Value
  deriving Repr

namespace Filter

mutual

/-- The tests of single fields in a filter, from left to right. -/
def tests : Filter → List FieldTest
  | .property field comparison target => [⟨field, comparison, target⟩]
  | .composite _ filters => testsOfAll filters

/-- The tests of single fields in filters, from left to right. -/
def testsOfAll : List Filter → List FieldTest
  | [] => []
  | filter :: others => filter.tests ++ testsOfAll others

end

end Filter

/-- What one test of a record gives. A missing field is no failure, but a datum without a store
value is. -/
inductive FieldTest.Answers (record : Record) (test : FieldTest) : Except Failure Bool → Prop
  | missing (absent : Dictionary.get? record test.field = none) : Answers record test (.ok false)
  | compared {datum : Datum} {stored : Value}
      (found : Dictionary.get? record test.field = some datum) (wrapped : datum.wrap = .ok stored) :
      Answers record test (.ok (stored.satisfies test.comparison test.target))
  | failed {datum : Datum} {failure : Failure}
      (found : Dictionary.get? record test.field = some datum)
      (failed : datum.wrap = .error failure) : Answers record test (.error failure)

/-- What tests of a record give when they are made one by one: the first that is not passed or fails
decides, and the record passes if there is none. -/
inductive TestsAnswer (record : Record) : List FieldTest → Except Failure Bool → Prop
  | passed : TestsAnswer record [] (.ok true)
  | stopped {test : FieldTest} {later : List FieldTest} {answer : Except Failure Bool}
      (here : test.Answers record answer) (stops : answer ≠ .ok true) :
      TestsAnswer record (test :: later) answer
  | next {test : FieldTest} {later : List FieldTest} {answer : Except Failure Bool}
      (here : test.Answers record (.ok true)) (rest : TestsAnswer record later answer) :
      TestsAnswer record (test :: later) answer

/-- The datum under the field of the test, if there is one, has a store value. -/
def FieldTest.TouchesWrapped (record : Record) (test : FieldTest) : Prop :=
  ∀ datum, Dictionary.get? record test.field = some datum → datum.Wraps

variable {record : Record} {test : FieldTest} {tests later : List FieldTest}
  {answer other : Except Failure Bool}

theorem FieldTest.answers_propertyMatches (record : Record) (test : FieldTest) :
    test.Answers record
      (Filter.propertyMatches test.field test.comparison test.target record) := by
  rw [Filter.propertyMatches]
  cases found : Dictionary.get? record test.field with
  | none => exact .missing found
  | some datum =>
      cases wrapped : datum.wrap with
      | error failure =>
          simp only [wrapped, Except.map]
          exact .failed found wrapped
      | ok stored =>
          simp only [wrapped, Except.map]
          exact .compared found wrapped

theorem FieldTest.Answers.propertyMatches_eq (answers : test.Answers record answer) :
    Filter.propertyMatches test.field test.comparison test.target record = answer := by
  rw [Filter.propertyMatches]
  cases answers with
  | missing absent => rw [absent]
  | compared found wrapped =>
      rw [found]
      simp only [wrapped, Except.map]
  | failed found failed =>
      rw [found]
      simp only [failed, Except.map]

theorem FieldTest.Answers.unique (first : test.Answers record answer)
    (second : test.Answers record other) : answer = other :=
  first.propertyMatches_eq.symm.trans second.propertyMatches_eq

/-- A test that touches no datum without a store value is passed or not. -/
theorem FieldTest.Answers.eq_ok (answers : test.Answers record answer)
    (touched : test.TouchesWrapped record) : ∃ met, answer = .ok met := by
  cases answers with
  | missing _ => exact ⟨false, rfl⟩
  | compared _ _ => exact ⟨_, rfl⟩
  | failed found failed =>
      obtain ⟨stored, wrapped⟩ := touched _ found
      exact nomatch wrapped.symm.trans failed

namespace TestsAnswer

theorem unique (first : TestsAnswer record tests answer) (second : TestsAnswer record tests other) :
    answer = other := by
  induction first with
  | passed =>
      cases second with
      | passed => rfl
  | stopped here stops =>
      cases second with
      | stopped again _ => exact here.unique again
      | next again _ => exact absurd (here.unique again) stops
  | next here _ ih =>
      cases second with
      | stopped again stops => exact absurd (again.unique here) stops
      | next _ rest => exact ih rest

theorem append_of_stops (answers : TestsAnswer record tests answer) (stops : answer ≠ .ok true)
    (later : List FieldTest) : TestsAnswer record (tests ++ later) answer := by
  induction answers with
  | passed => exact absurd rfl stops
  | stopped here _ => exact .stopped here stops
  | next here _ ih => exact .next here (ih stops)

theorem append (passes : TestsAnswer record tests (.ok true))
    (rest : TestsAnswer record later answer) : TestsAnswer record (tests ++ later) answer := by
  generalize isPassed : Except.ok true = first at passes
  induction passes with
  | passed => exact rest
  | stopped _ stops => exact absurd isPassed.symm stops
  | next here _ ih => exact .next here (ih isPassed)

/-- Tests that touch no datum without a store value say whether all of them are passed. -/
theorem eq_ok_iff (answers : TestsAnswer record tests answer)
    (touched : ∀ test ∈ tests, test.TouchesWrapped record) :
    ∃ met, answer = .ok met ∧ (met = true ↔ ∀ test ∈ tests, test.Answers record (.ok true)) := by
  induction answers with
  | passed => exact ⟨true, rfl, by simp⟩
  | @stopped test later answer here stops =>
      obtain ⟨met, rfl⟩ := here.eq_ok (touched test List.mem_cons_self)
      refine ⟨met, rfl, fun passed => ?_, fun all => ?_⟩
      · exact absurd (congrArg Except.ok passed) stops
      · exact absurd (here.unique (all test List.mem_cons_self)) stops
  | next here _ ih =>
      obtain ⟨met, isMet, iff⟩ := ih fun test member => touched test (List.mem_cons_of_mem _ member)
      exact ⟨met, isMet, by simp [iff, here]⟩

end TestsAnswer

namespace Filter

mutual

theorem testsAnswer : (filter : Filter) → TestsAnswer record filter.tests (filter.matches? record)
  | .property field comparison target => by
      have here := FieldTest.answers_propertyMatches record ⟨field, comparison, target⟩
      rw [matches?, tests]
      by_cases passes : propertyMatches field comparison target record = .ok true
      · rw [passes] at here ⊢
        exact .next here .passed
      · exact .stopped here passes
  | .composite _ filters => by
      rw [matches?, tests]
      exact testsAnswer_all filters

theorem testsAnswer_all : (filters : List Filter) →
    TestsAnswer record (testsOfAll filters) (matchesAll? record filters)
  | [] => .passed
  | filter :: others => by
      have here := testsAnswer filter
      rw [matchesAll?, testsOfAll]
      -- The tests of the other filters are made only if those of the first are all passed.
      cases tried : filter.matches? record with
      | error failure =>
          rw [tried] at here
          exact here.append_of_stops (nomatch ·) _
      | ok met =>
          rw [tried] at here
          cases met with
          | false => exact here.append_of_stops (nomatch ·) _
          | true => exact here.append (testsAnswer_all others)

end

/-- A filter is the conjunction of its tests. Trying it gives exactly what its tests give one by one
from left to right, stopping at the first that is not passed or fails. So neither the nesting nor the
names of junctions count; and if no test touches a datum without a store value, the order of the
tests does not count either. -/
theorem matches_by_tests (record : Record) :
    (∀ (filter : Filter) (answer : Except Failure Bool),
      filter.matches? record = answer ↔ TestsAnswer record filter.tests answer) ∧
    (∀ filter other : Filter, filter.tests = other.tests →
      filter.matches? record = other.matches? record) ∧
    ∀ filter other : Filter, (∀ test ∈ filter.tests, test.TouchesWrapped record) →
      filter.tests.Perm other.tests → filter.matches? record = other.matches? record := by
  refine ⟨fun filter answer => ⟨?_, ?_⟩, fun filter other same => ?_, ?_⟩
  · intro tried
    exact tried ▸ testsAnswer filter
  · exact fun answers => (testsAnswer filter).unique answers
  · have answers : TestsAnswer record filter.tests (filter.matches? record) := testsAnswer filter
    rw [same] at answers
    exact answers.unique (testsAnswer other)
  · intro filter other touched perm
    obtain ⟨met, isMet, passes⟩ := (testsAnswer filter).eq_ok_iff touched
    have touchedOther : ∀ test ∈ other.tests, test.TouchesWrapped record :=
      fun test member => touched test (perm.mem_iff.mpr member)
    obtain ⟨metOther, isMetOther, passesOther⟩ := (testsAnswer other).eq_ok_iff touchedOther
    have same : met = metOther := by
      rw [Bool.eq_iff_iff, passes, passesOther]
      simp only [perm.mem_iff]
    rw [isMet, isMetOther, same]

/-- A book by the wrong author, with an object without a store value under `"cover"`. The test of the
author hides the failure behind it; in front of it the failure shows. The tests of the title and the
author may be exchanged and nested under any name. -/
theorem matches_by_tests_cover :
    let record : Record :=
      [("title", .text "b"), ("author", .text "Le Guin"), ("cover", .foreign (.other "object"))]
    let title : Filter := .property "title" .equal (.string "b")
    let author : Filter := .property "author" .less (.string "Borges")
    let cover : Filter := .property "cover" .equal .null
    (composite "AND" [title, .composite "OR" [author], cover]).matches? record = .ok false ∧
    (composite "AND" [.composite "AND" [], cover, author]).matches? record =
      .error (.unsupportedType "object") ∧
    (composite "OR" [.composite "" [title, author]]).matches? record =
      (composite "AND" [author, .composite "AND" [], title]).matches? record := by
  intro record title author cover
  obtain ⟨answers, -, reordering⟩ := matches_by_tests record
  refine ⟨(answers _ _).mpr ?_, (answers _ _).mpr ?_, reordering _ _ ?_ (.swap _ _ [])⟩
  · have passed : (⟨"title", .equal, .string "b"⟩ : FieldTest).Answers record (.ok true) :=
      FieldTest.answers_propertyMatches record ⟨"title", .equal, .string "b"⟩
    have missed : (⟨"author", .less, .string "Borges"⟩ : FieldTest).Answers record (.ok false) :=
      FieldTest.answers_propertyMatches record ⟨"author", .less, .string "Borges"⟩
    exact .next passed (.stopped missed (nomatch ·))
  · exact .stopped (.failed rfl rfl) (nomatch ·)
  · intro test member datum found
    have either :
        test = ⟨"title", .equal, .string "b"⟩ ∨ test = ⟨"author", .less, .string "Borges"⟩ :=
      (List.mem_cons.mp member).imp_right List.mem_singleton.mp
    rcases either with rfl | rfl
    · obtain rfl : Datum.text "b" = datum := Option.some.inj found
      exact ⟨_, rfl⟩
    · obtain rfl : Datum.text "Le Guin" = datum := Option.some.inj found
      exact ⟨_, rfl⟩

end Filter

end DerivedQuery
