import DerivedQuery.Proofs.Agreement
import DerivedQuery.Proofs.QueryName.Parts

/-!
# Agreeing readings of query names

One sequence of items is written as words in two ways. When the two words of every item have the
same key, and state the same number or none, the readers of all parts of a query name agree: they
fail with the same fault, or find the same parts with the same items spelling every property.
-/

set_option autoImplicit false

namespace DerivedQuery

/-- The two clauses differ in the spelling of the property at most. -/
structure Clause.SameUpTo (related : String → String → Prop) (clause other : Clause) : Prop where
  property : related clause.property other.property
  operator : clause.operator = other.operator

structure SortKey.SameUpTo (related : String → String → Prop) (key other : SortKey) : Prop where
  property : related key.property other.property
  direction : key.direction = other.direction

structure QueryName.SameUpTo (related : String → String → Prop) (name other : QueryName) :
    Prop where
  verb : name.verb = other.verb
  distinct : name.distinct = other.distinct
  limit : name.limit = other.limit
  groups : List.Forall₂ (List.Forall₂ (Clause.SameUpTo related)) name.groups other.groups
  orders : List.Forall₂ (SortKey.SameUpTo related) name.orders other.orders

/-- Two ways to write items as words. -/
structure SameReading {ι : Type} (f g : ι → Word) : Prop where
  key : ∀ x, (f x).key = (g x).key
  number : ∀ x, (f x).text = (g x).text ∨ ¬ (f x).IsNumber ∧ ¬ (g x).IsNumber
  spelled : ∀ x, (f x).text ≠ "" ∧ (g x).text ≠ ""

/-- The items of a group, which has no gaps, spell related properties in the two ways. -/
def SpellsRelated {ι : Type} (f g : ι → Word) (style other : NameStyle)
    (related : String → String → Prop) (all : List ι) : Prop :=
  ∀ group, group ≠ [] → group <:+: all →
    related (joinProperty style (group.map f)) (joinProperty other (group.map g))

section

variable {ι : Type} {f g : ι → Word} {style other : NameStyle} {related : String → String → Prop}
  {all xs : List ι}

theorem SpellsRelated.within (spells : SpellsRelated f g style other related all)
    (inside : xs <:+: all) : SpellsRelated f g style other related xs := by
  intro group nonempty inGroup
  exact spells group nonempty (inGroup.trans inside)

namespace SameReading

theorem map_key (same : SameReading f g) (xs : List ι) :
    (xs.map f).map Word.key = (xs.map g).map Word.key := by
  simp [same.key]

theorem splitSubject (same : SameReading f g) (xs : List ι) :
    ∃ subject predicate, subject <:+: xs ∧ predicate <:+: xs ∧
      QueryName.splitSubject (xs.map f) = (subject.map f, predicate.map f) ∧
      QueryName.splitSubject (xs.map g) = (subject.map g, predicate.map g) := by
  let plain (x : ι) : Bool := (f x).key != "by"
  have plainOther : (fun x => (g x).key != "by") = plain := by
    funext x
    exact congrArg (· != "by") (same.key x).symm
  refine ⟨xs.takeWhile plain, (xs.dropWhile plain).drop 1, (List.takeWhile_prefix plain).isInfix,
    ((List.drop_suffix 1 _).trans (List.dropWhile_suffix plain)).isInfix, ?_, ?_⟩
  · rw [QueryName.splitSubject, List.takeWhile_map, List.dropWhile_map, List.map_drop]
    rfl
  · rw [← plainOther, QueryName.splitSubject, List.takeWhile_map, List.dropWhile_map, List.map_drop]
    rfl

theorem limitOf (same : SameReading f g) (xs : List ι) :
    QueryName.limitOf (xs.map f) = QueryName.limitOf (xs.map g) := by
  cases xs with
  | nil => rfl
  | cons x xs =>
      rw [List.map_cons, List.map_cons, QueryName.limitOf, QueryName.limitOf]
      cases same.number x with
      | inl text => rw [text]
      | inr none =>
          have left := Word.isNumber_iff.not.mp none.1
          have right := Word.isNumber_iff.not.mp none.2
          rw [Bool.not_eq_false] at left right
          rw [left, right]
          rfl

theorem parseLimit (same : SameReading f g) (xs : List ι) :
    QueryName.parseLimit (xs.map f) = QueryName.parseLimit (xs.map g) := by
  have read (xs : List ι) : readLimit (xs.map f) = readLimit (xs.map g) := by
    cases xs with
    | nil => rfl
    | cons x xs => rw [List.map_cons, List.map_cons, readLimit, readLimit, same.key, same.limitOf]
  rw [parseLimit_eq, parseLimit_eq]
  cases xs with
  | nil => rfl
  | cons x xs =>
      rw [List.map_cons, List.map_cons, behindDistinct, behindDistinct, same.key]
      by_cases distinct : (g x).key = "distinct"
      · rw [if_pos distinct, if_pos distinct, read]
      · rw [if_neg distinct, if_neg distinct]
        exact read (x :: xs)

theorem splitOrderBy? (same : SameReading f g) (xs : List ι) :
    (QueryName.splitOrderBy? (xs.map f) = none ∧ QueryName.splitOrderBy? (xs.map g) = none) ∨
    ∃ before after, before <:+: xs ∧ after <:+: xs ∧
      QueryName.splitOrderBy? (xs.map f) = some (before.map f, after.map f) ∧
      QueryName.splitOrderBy? (xs.map g) = some (before.map g, after.map g) := by
  suffices found : (QueryName.splitOrderBy? (xs.map f) = none ∧
      QueryName.splitOrderBy? (xs.map g) = none) ∨
      ∃ before after, before <+: xs ∧ after <:+ xs ∧
        QueryName.splitOrderBy? (xs.map f) = some (before.map f, after.map f) ∧
        QueryName.splitOrderBy? (xs.map g) = some (before.map g, after.map g) by
    refine found.imp_right ?_
    rintro ⟨before, after, front, back, read⟩
    exact ⟨before, after, front.isInfix, back.isInfix, read⟩
  induction xs with
  | nil => exact .inl ⟨rfl, rfl⟩
  | cons x xs ih =>
      cases xs with
      | nil => exact .inl ⟨rfl, rfl⟩
      | cons y xs =>
          simp only [List.map_cons, QueryName.splitOrderBy?, same.key] at ih ⊢
          by_cases pair : (g x).key = "order" ∧ (g y).key = "by"
          · refine .inr ⟨[], xs, List.nil_prefix, ?_, ?_⟩
            · exact (List.suffix_cons y xs).trans (List.suffix_cons x _)
            · simp [pair]
          · have noPair : ((decide ((g x).key = "order") && decide ((g y).key = "by")) = true) ↔
                False := by
              simpa using pair
            simp only [noPair, if_false]
            rcases ih with ⟨left, right⟩ | ⟨before, after, front, back, left, right⟩
            · exact .inl ⟨by rw [left]; rfl, by rw [right]; rfl⟩
            · refine .inr ⟨x :: before, after, (List.prefix_cons_inj x).mpr front,
                back.trans (List.suffix_cons x _), ?_, ?_⟩
              · rw [left]
                rfl
              · rw [right]
                rfl

theorem splitOrdering (same : SameReading f g) (xs : List ι) :
    Agree (fun parts otherParts => ∃ (clauses : List ι) (ordering : Option (List ι)),
        clauses <:+: xs ∧ (∀ keys ∈ ordering, keys <:+: xs) ∧
        parts = (clauses.map f, ordering.map (List.map f)) ∧
        otherParts = (clauses.map g, ordering.map (List.map g)))
      (QueryName.splitOrdering (xs.map f)) (QueryName.splitOrdering (xs.map g)) := by
  rcases same.splitOrderBy? xs with ⟨left, right⟩ | ⟨before, after, front, back, left, right⟩
  · rw [QueryName.splitOrdering, QueryName.splitOrdering, left, right]
    exact .ok ⟨xs, none, List.infix_refl xs, by simp, rfl, rfl⟩
  · rw [QueryName.splitOrdering, QueryName.splitOrdering, left, right]
    dsimp only
    rcases same.splitOrderBy? after with ⟨none, noneOther⟩ | ⟨_, _, -, -, again, againOther⟩
    · rw [none, noneOther]
      refine .ok ⟨before, some after, front, ?_, rfl, rfl⟩
      intro keys isAfter
      rw [← Option.some.inj isAfter]
      exact back
    · rw [again, againOther]
      exact .error

/-- The clause that items spell in the one way has the operator of the other, and the same items
spell its property. -/
theorem clause (same : SameReading f g) (spells : SpellsRelated f g style other related xs)
    (nonempty : xs ≠ []) :
    ∃ a b, Clause.ofWords? style (xs.map f) = some a ∧ Clause.ofWords? other (xs.map g) = some b ∧
      a.SameUpTo related b := by
  have shorter : (Operator.ofWords (xs.map f)).2 < xs.length := by
    have less := @Operator.ofWords_lt (xs.map f) (by simpa using nonempty)
    rwa [List.length_map] at less
  have operator := Operator.ofWords_congr (same.map_key xs)
  let count := xs.length - (Operator.ofWords (xs.map f)).2
  have some : xs.take count ≠ [] := by
    intro empty
    have length := congrArg List.length empty
    rw [List.length_take, List.length_nil] at length
    omega
  have property (style : NameStyle) (h : ι → Word) (spelled : ∀ x, (h x).text ≠ "") :
      joinProperty style ((xs.take count).map h) ≠ "" := by
    refine joinProperty_ne_empty (by simpa using some) fun word member => ?_
    obtain ⟨x, -, rfl⟩ := List.mem_map.mp member
    exact spelled x
  refine ⟨⟨joinProperty style ((xs.take count).map f), (Operator.ofWords (xs.map f)).1⟩,
    ⟨joinProperty other ((xs.take count).map g), (Operator.ofWords (xs.map f)).1⟩, ?_, ?_, ?_⟩
  · simp only [Clause.ofWords?, List.length_map, ← List.map_take]
    exact if_neg (property style f fun x => (same.spelled x).1)
  · simp only [Clause.ofWords?, List.length_map, ← List.map_take, ← operator]
    exact if_neg (property other g fun x => (same.spelled x).2)
  · exact ⟨spells _ some (List.take_prefix count xs).isInfix, rfl⟩

theorem splitOn (same : SameReading f g) (keyword : String) (xs : List ι) :
    ∃ pieces : List (List ι), (∀ piece ∈ pieces, piece <:+: xs) ∧
      DerivedQuery.splitOn keyword (xs.map f) = pieces.map (List.map f) ∧
      DerivedQuery.splitOn keyword (xs.map g) = pieces.map (List.map g) := by
  refine ⟨splitWhen (fun x => (f x).key == keyword) xs, fun piece => infix_of_mem_splitWhen,
    splitWhen_map f xs, ?_⟩
  simp only [same.key]
  exact splitWhen_map g xs

theorem parseGroup (same : SameReading f g)
    (spells : SpellsRelated f g style other related xs) :
    Agree (List.Forall₂ (Clause.SameUpTo related))
      (QueryName.parseGroup style (xs.map f)) (QueryName.parseGroup other (xs.map g)) := by
  obtain ⟨pieces, inside, left, right⟩ := same.splitOn "and" xs
  have empty (h : ι → Word) : (pieces.map (List.map h)).any List.isEmpty =
      pieces.any List.isEmpty := by
    simp [List.any_map, Function.comp_def]
  rw [QueryName.parseGroup, QueryName.parseGroup, left, right, empty f, empty g]
  cases dangles : pieces.any List.isEmpty with
  | true => exact .error
  | false =>
      refine .mapM ?_
      rw [List.forall₂_map_left_iff, List.forall₂_map_right_iff, List.forall₂_same]
      intro piece member
      have nonempty : piece ≠ [] := by
        rintro rfl
        have found : pieces.any List.isEmpty = true := List.any_eq_true.mpr ⟨[], member, rfl⟩
        rw [dangles] at found
        exact nomatch found
      obtain ⟨a, b, isLeft, isRight, alike⟩ :=
        same.clause (spells.within (inside piece member)) nonempty
      rw [isLeft, isRight]
      exact .ok alike

theorem parsePredicate (same : SameReading f g)
    (spells : SpellsRelated f g style other related xs) :
    Agree (List.Forall₂ (List.Forall₂ (Clause.SameUpTo related)))
      (QueryName.parsePredicate style (xs.map f))
      (QueryName.parsePredicate other (xs.map g)) := by
  cases xs with
  | nil => exact .ok .nil
  | cons x xs =>
      obtain ⟨pieces, inside, left, right⟩ := same.splitOn "or" (x :: xs)
      have read : ∀ style (h : ι → Word), QueryName.parsePredicate style ((x :: xs).map h) =
          (DerivedQuery.splitOn "or" ((x :: xs).map h)).mapM (QueryName.parseGroup style) :=
        fun _ _ => rfl
      rw [read, read, left, right]
      refine .mapM ?_
      rw [List.forall₂_map_left_iff, List.forall₂_map_right_iff, List.forall₂_same]
      intro piece member
      exact same.parseGroup (spells.within (inside piece member))

theorem sortKeysAfter (same : SameReading f g) {pending : List ι}
    (spells : SpellsRelated f g style other related (pending ++ xs)) :
    Agree (List.Forall₂ (SortKey.SameUpTo related))
      (QueryName.sortKeysAfter style (pending.map f) (xs.map f))
      (QueryName.sortKeysAfter other (pending.map g) (xs.map g)) := by
  induction xs generalizing pending with
  | nil =>
      cases pending with
      | nil => exact .ok .nil
      | cons x pending =>
          rw [List.append_nil] at spells
          exact .ok (.cons ⟨spells _ (by simp) (List.infix_refl _), rfl⟩ .nil)
  | cons x xs ih =>
      rw [List.map_cons, List.map_cons, QueryName.sortKeysAfter, QueryName.sortKeysAfter, same.key]
      cases Direction.ofKey? (g x).key with
      | none =>
          have later := @ih (pending ++ [x]) (by simpa using spells)
          simpa using later
      | some direction =>
          cases pending with
          | nil => exact .error
          | cons first pending =>
              have later := @ih [] (spells.within ⟨first :: pending ++ [x], [], by simp⟩)
              refine later.map fun keys otherKeys alike => .cons ⟨?_, rfl⟩ alike
              exact spells (first :: pending) (by simp) ⟨[], x :: xs, by simp⟩

theorem parseOrdering (same : SameReading f g) {ordering : Option (List ι)}
    (spells : ∀ keys ∈ ordering, SpellsRelated f g style other related keys) :
    Agree (List.Forall₂ (SortKey.SameUpTo related))
      (QueryName.parseOrdering style (ordering.map (List.map f)))
      (QueryName.parseOrdering other (ordering.map (List.map g))) := by
  cases ordering with
  | none => exact .ok .nil
  | some keys =>
      have read := @sortKeysAfter _ _ _ _ _ _ _ same [] (spells keys rfl)
      refine read.bind fun found otherFound alike => ?_
      cases alike with
      | nil => exact .error
      | cons here later => exact .ok (.cons here later)

/-- The readers agree on the words behind a verb. -/
theorem ofWords (same : SameReading f g) (verb : Word)
    (spells : SpellsRelated f g style other related xs) :
    Agree (QueryName.SameUpTo related) (QueryName.ofWords style (verb :: xs.map f))
      (QueryName.ofWords other (verb :: xs.map g)) := by
  rw [QueryName.ofWords, QueryName.ofWords]
  cases Verb.ofKey? verb.key with
  | none => exact .error
  | some found =>
      obtain ⟨subject, predicate, -, inPredicate, left, right⟩ := same.splitSubject xs
      have distinct : ((subject.map f).any fun word => word.key == "distinct") =
          (subject.map g).any fun word => word.key == "distinct" := by
        simp [same.key, Function.comp_def]
      dsimp only
      rw [left, right]
      dsimp only
      rw [same.parseLimit, distinct]
      cases QueryName.parseLimit (subject.map g) with
      | error fault => exact .error
      | ok limit =>
          refine (same.splitOrdering predicate).bind ?_
          rintro _ _ ⟨clauses, ordering, inClauses, inOrdering, rfl, rfl⟩
          refine (same.parsePredicate (spells.within (inClauses.trans inPredicate))).bind ?_
          intro groups otherGroups sameGroups
          refine (same.parseOrdering fun keys isOrdering =>
            spells.within ((inOrdering keys isOrdering).trans inPredicate)).bind ?_
          intro orders otherOrders sameOrders
          exact .ok ⟨rfl, rfl, rfl, sameGroups, sameOrders⟩

end SameReading

end

end DerivedQuery
