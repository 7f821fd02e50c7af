import DerivedQuery.Proofs.Method.Binding
import Mathlib.Data.List.Perm.Basic

/-!
# Reordered clauses

The order of the clauses of a name says which clause takes which argument, and nothing else. Two
names with the same clauses in different orders, called so that each clause takes the same argument,
find the same entities in the same order or fail alike.
-/

set_option autoImplicit false

namespace DerivedQuery

namespace BoundClause

/-- The argument, where the clause takes one. -/
def taken (bound : BoundClause) : BoundClause :=
  if bound.clause.takesArgument then bound else ⟨bound.clause, none⟩

/-- There is an argument exactly where the clause takes one. -/
def Exact (bound : BoundClause) : Prop :=
  bound.argument.isSome = bound.clause.takesArgument

variable {model : Model} {bound other : BoundClause} {filter otherFilter : Filter}

@[simp] theorem taken_clause (bound : BoundClause) : bound.taken.clause = bound.clause := by
  unfold taken
  split <;> rfl

theorem gives_taken_iff : bound.taken.Gives model filter ↔ bound.Gives model filter := by
  obtain ⟨clause, argument⟩ := bound
  cases takes : clause.takesArgument with
  | true => simp only [taken, takes, if_true]
  | false =>
      simp only [taken, takes, Bool.false_eq_true, if_false]
      constructor <;> intro gives
      · cases gives with
        | null asksNull named => exact .null asksNull named
      · cases gives with
        | null asksNull named => exact .null asksNull named
        | compared compares =>
            exact nomatch takes.symm.trans (Clause.takesArgument_of_comparison compares)

theorem Gives.unique (gives : bound.Gives model filter) (again : bound.Gives model otherFilter) :
    filter = otherFilter := by
  cases gives with
  | null asksNull named =>
      cases again with
      | null _ namedAgain => rw [Except.ok.inj (named.symm.trans namedAgain)]
      | compared compares =>
          exact absurd asksNull (Operator.not_nullCheck_of_comparison compares)
  | compared compares named wrapped =>
      cases again with
      | null asksNull => exact absurd asksNull (Operator.not_nullCheck_of_comparison compares)
      | compared comparesAgain namedAgain wrappedAgain =>
          have conditions := (Operator.condition?_eq_compares.mpr compares).symm.trans
            (Operator.condition?_eq_compares.mpr comparesAgain)
          obtain rfl := Condition.compares.inj (Option.some.inj conditions)
          rw [Except.ok.inj (named.symm.trans namedAgain),
            Except.ok.inj (wrapped.symm.trans wrappedAgain)]

/-- The filter compares the field behind the property of the clause. -/
theorem Gives.touches (gives : bound.Gives model filter) {record : Record}
    (wraps : ∀ field, model.fieldName bound.clause.property = .ok field → ∀ datum,
      Dictionary.get? record field = some datum → datum.Wraps) :
    filter.TouchesWrapped record := by
  cases gives with
  | null _ named => exact wraps _ named
  | compared _ named => exact wraps _ named

end BoundClause

/-- The clauses of a call, each with the argument that it takes. -/
def takenClauses (clauses : List Clause) (arguments : List Datum) : List BoundClause :=
  (bindClauses clauses arguments).map BoundClause.taken

variable {clauses : List Clause} {arguments : List Datum}

theorem takenClauses_cons (clause : Clause) :
    takenClauses (clause :: clauses) arguments =
      BoundClause.taken ⟨clause, arguments[0]?⟩ ::
        takenClauses clauses (arguments.drop (if clause.takesArgument then 1 else 0)) := by
  rw [takenClauses, bindClauses_cons]
  rfl

theorem map_clause_takenClauses (clauses : List Clause) (arguments : List Datum) :
    (takenClauses clauses arguments).map BoundClause.clause = clauses := by
  induction clauses generalizing arguments with
  | nil => rfl
  | cons clause clauses ih => simp [takenClauses_cons, ih]

theorem exact_takenClauses (enough : clauses.countP Clause.takesArgument ≤ arguments.length) :
    ∀ bound ∈ takenClauses clauses arguments, bound.Exact := by
  induction clauses generalizing arguments with
  | nil => simp [takenClauses, bindClauses]
  | cons clause clauses ih =>
      rw [takenClauses_cons, List.forall_mem_cons]
      cases takes : clause.takesArgument with
      | true =>
          rw [List.countP_cons_of_pos takes] at enough
          refine ⟨?_, ih (by simp; omega)⟩
          simp [BoundClause.taken, BoundClause.Exact, takes]
          omega
      | false =>
          rw [List.countP_cons_of_neg (by simp [takes])] at enough
          exact ⟨by simp [BoundClause.taken, BoundClause.Exact, takes], ih (by simpa using enough)⟩

/-- The arguments of clauses, in order, are taken by these clauses. -/
theorem takenClauses_arguments {bounds : List BoundClause}
    (exact_bounds : ∀ bound ∈ bounds, bound.Exact) :
    takenClauses (bounds.map BoundClause.clause) (bounds.filterMap BoundClause.argument) =
      bounds := by
  induction bounds with
  | nil => rfl
  | cons bound bounds ih =>
      obtain ⟨here, later⟩ := List.forall_mem_cons.mp exact_bounds
      obtain ⟨clause, argument⟩ := bound
      simp only [BoundClause.Exact] at here
      -- The first argument is dropped exactly where this clause brought one.
      rw [List.map_cons, takenClauses_cons, ← here]
      cases argument with
      | none =>
          rw [List.filterMap_cons_none (f := BoundClause.argument) rfl]
          simp [BoundClause.taken, ← here, ih later]
      | some argument =>
          rw [List.filterMap_cons_some (f := BoundClause.argument) rfl]
          simp [BoundClause.taken, ← here, ih later]

/-- Where the arguments suffice, there are arguments for the clauses in any other order. -/
theorem exists_rearranged {others : List Clause} (rearranged : others.Perm clauses)
    (enough : clauses.countP Clause.takesArgument ≤ arguments.length) :
    ∃ swapped, (takenClauses others swapped).Perm (takenClauses clauses arguments) := by
  rw [← map_clause_takenClauses clauses arguments] at rearranged
  have named : List.Forall₂ (fun clause (bound : BoundClause) => bound.clause = clause)
      ((takenClauses clauses arguments).map BoundClause.clause)
      (takenClauses clauses arguments) := by
    rw [List.forall₂_map_left_iff, List.forall₂_same]
    exact fun bound _ => rfl
  -- The arguments move with their clauses.
  obtain ⟨bounds, namedOthers, perm⟩ := List.perm_comp_forall₂ rearranged named
  have same : bounds.map BoundClause.clause = others := by
    rw [← List.forall₂_eq_eq_eq, List.forall₂_map_left_iff]
    exact namedOthers.flip
  refine ⟨bounds.filterMap BoundClause.argument, ?_⟩
  rw [← same, takenClauses_arguments fun bound member =>
    exact_takenClauses enough bound (perm.mem_iff.mp member)]
  exact perm

theorem countP_takesArgument_le (clauses : List Clause) :
    clauses.countP Clause.takesArgument ≤ (clauses.map Clause.argumentCount).sum := by
  induction clauses with
  | nil => simp
  | cons clause clauses ih =>
      rw [List.countP_cons, List.map_cons, List.sum_cons]
      cases takes : clause.takesArgument with
      | true =>
          have some : 0 < clause.argumentCount := of_decide_eq_true takes
          simp
          omega
      | false =>
          simp
          omega

namespace Store

/-- Filters that the same records meet select the same records. -/
theorem select_congr {store : Store} {kind : String} {filter other : Option Filter}
    {orders : List FieldOrder} {limit : Option Int}
    (touched : ∀ record ∈ store.records kind, ∀ condition ∈ filter,
      condition.TouchesWrapped record)
    (touchedOther : ∀ record ∈ store.records kind, ∀ condition ∈ other,
      condition.TouchesWrapped record)
    (meets_iff : ∀ record ∈ store.records kind,
      (∀ condition ∈ filter, condition.Meets record) ↔ ∀ condition ∈ other, condition.Meets record) :
    store.select ⟨kind, filter, orders, limit⟩ = store.select ⟨kind, other, orders, limit⟩ := by
  classical
  rw [select_eq, select_eq, filterRecords_places touched, filterRecords_places touchedOther]
  simp only [meets_iff _ (List.get_mem _ _)]

end Store

theorem SortKey.fieldOrder_unique {model : Model} : Relator.RightUnique
    fun (key : SortKey) (order : FieldOrder) => model.fieldName key.property = .ok order.field ∧
      order.direction = key.direction := by
  rintro key ⟨field, direction⟩ ⟨otherField, otherDirection⟩ ⟨named, rfl⟩ ⟨namedOther, rfl⟩
  exact congrArg (FieldOrder.mk · key.direction) (Except.ok.inj (named.symm.trans namedOther))

namespace CompiledQuery

variable {model : Model} {others : List Clause} {swapped : List Datum}

theorem gives_of_reordered
    (reordered : (takenClauses others swapped).Perm (takenClauses clauses arguments))
    {bound : BoundClause} (member : bound ∈ bindClauses clauses arguments) :
    ∃ other ∈ bindClauses others swapped, other.clause = bound.clause ∧
      ∀ model filter, other.Gives model filter ↔ bound.Gives model filter := by
  obtain ⟨other, inside, same⟩ :=
    List.mem_map.mp (reordered.mem_iff.mpr (List.mem_map_of_mem member))
  refine ⟨other, inside, ?_, fun model filter => ?_⟩
  · rw [← BoundClause.taken_clause, same, BoundClause.taken_clause]
  · rw [← BoundClause.gives_taken_iff, same, BoundClause.gives_taken_iff]

theorem mem_filters_of_reordered
    (reordered : (takenClauses others swapped).Perm (takenClauses clauses arguments))
    {filters otherFilters : List Filter}
    (gives : List.Forall₂ (BoundClause.Gives model) (bindClauses clauses arguments) filters)
    (givesOther : List.Forall₂ (BoundClause.Gives model) (bindClauses others swapped) otherFilters)
    {filter : Filter} (member : filter ∈ filters) : filter ∈ otherFilters := by
  obtain ⟨bound, inside, here⟩ := exists_of_forall₂ gives member
  obtain ⟨other, insideOther, -, gives_iff⟩ := gives_of_reordered reordered inside
  obtain ⟨again, memberAgain, there⟩ := exists_of_forall₂ givesOther.flip insideOther
  exact ((gives_iff model filter).mpr here).unique there ▸ memberAgain

/-- Clauses in another order, each with the argument that it took, are bound as before. -/
theorem exists_gives_of_reordered
    (reordered : (takenClauses others swapped).Perm (takenClauses clauses arguments))
    (gives : ∀ bound ∈ bindClauses others swapped, ∃ filter, bound.Gives model filter) :
    ∀ bound ∈ bindClauses clauses arguments, ∃ filter, bound.Gives model filter := by
  intro bound member
  obtain ⟨other, inside, -, gives_iff⟩ := gives_of_reordered reordered member
  obtain ⟨filter, given⟩ := gives other inside
  exact ⟨filter, (gives_iff model filter).mp given⟩

/-- The data of a record under the filtered fields have store values. -/
def FilteredWrap (query : CompiledQuery) (record : Record) : Prop :=
  ∀ clause ∈ query.name.clauses, ∀ field, query.model.fieldName clause.property = .ok field →
    ∀ datum, Dictionary.get? record field = some datum → datum.Wraps

section Reordered

variable {method otherMethod : QueryMethod} {query other : CompiledQuery}
  {built otherBuilt : StructuredQuery}

theorem select_reordered {store : Store}
    (compiled : method.compile = .ok query) (compiledOther : otherMethod.compile = .ok other)
    (model : other.model = query.model) (orders : other.name.orders = query.name.orders)
    (limit : other.name.limit = query.name.limit)
    (reordered : (takenClauses other.name.clauses swapped).Perm
      (takenClauses query.name.clauses arguments))
    (bound : query.build arguments = .ok built) (boundOther : other.build swapped = .ok otherBuilt)
    (wraps : ∀ record ∈ store.records query.model.kindName, query.FilteredWrap record) :
    store.select built = store.select otherBuilt := by
  obtain ⟨kind, filter, sorted, cutOff⟩ := built
  obtain ⟨otherKind, otherFilter, otherSorted, otherCutOff⟩ := otherBuilt
  obtain ⟨rfl, ⟨filters, gives, joined⟩, named, rfl⟩ := (build_eq_ok_iff compiled).mp bound
  obtain ⟨rfl, ⟨otherFilters, givesOther, joinedOther⟩, namedOther, rfl⟩ :=
    (build_eq_ok_iff compiledOther).mp boundOther
  obtain rfl := joined_iff.mp joined
  obtain rfl := joined_iff.mp joinedOther
  rw [model] at givesOther namedOther ⊢
  rw [orders] at namedOther
  obtain rfl : sorted = otherSorted :=
    SortKey.fieldOrder_unique.forall₂ named namedOther
  have touches (record : Record) (member : record ∈ store.records query.model.kindName) :
      ∀ filter ∈ filters, filter.TouchesWrapped record := by
    intro filter inside
    obtain ⟨bound, isBound, here⟩ := exists_of_forall₂ gives inside
    exact here.touches (wraps record member bound.clause (clause_mem_of_mem_bindClauses isBound))
  -- The filters are the same up to order and repetition, and a conjunction sees neither.
  have filters_iff (filter : Filter) : filter ∈ otherFilters ↔ filter ∈ filters :=
    ⟨mem_filters_of_reordered reordered.symm givesOther gives,
      mem_filters_of_reordered reordered gives givesOther⟩
  rw [limit]
  refine Store.select_congr ?_ ?_ fun record member => ?_
  · exact fun record member => joinFilters_touches (touches record member)
  · intro record member
    refine joinFilters_touches fun filter inside => ?_
    exact touches record member filter ((filters_iff filter).mp inside)
  · simp only [joinFilters_meets, filters_iff]

/-- Two compiled names with the same clauses in different orders, the same sort order and the same
limit. Arguments for the first can be rearranged for the second, and however they are, so that each
clause takes the argument that it took, the calls succeed in building queries alike, and these find
the same records in the same order or fail alike on every store whose data under the filtered fields
have store values. -/
theorem reordered_agree (settings : Settings) (entity : method.entity = otherMethod.entity)
    (compiled : method.compile = .ok query) (compiledOther : otherMethod.compile = .ok other)
    (verb : other.name.verb = query.name.verb) (orders : other.name.orders = query.name.orders)
    (limit : other.name.limit = query.name.limit)
    (rearranged : other.name.clauses.Perm query.name.clauses)
    (enough : (query.name.clauses.map Clause.argumentCount).sum ≤ arguments.length) :
    (∃ swapped, (takenClauses other.name.clauses swapped).Perm
      (takenClauses query.name.clauses arguments)) ∧
    ∀ swapped, (takenClauses other.name.clauses swapped).Perm
        (takenClauses query.name.clauses arguments) →
      ((∃ built, query.build arguments = .ok built) ↔ ∃ built, other.build swapped = .ok built) ∧
      ∀ built otherBuilt, query.build arguments = .ok built → other.build swapped = .ok otherBuilt →
        ∀ store : Store,
          (∀ record ∈ store.records query.model.kindName, query.FilteredWrap record) →
          store.select built = store.select otherBuilt ∧
          (query.raw settings (.store store) arguments).result =
            (other.raw settings (.store store) swapped).result ∧
          (method.projection = otherMethod.projection →
            (query.execute settings (.store store) arguments).result =
              (other.execute settings (.store store) swapped).result) := by
  obtain ⟨⟨parsed, typed, answerable⟩, -, projection, -⟩ :=
    QueryMethod.compile_eq_ok_iff.mp compiled
  obtain ⟨⟨parsedOther, typedOther, answerableOther⟩, -, projectionOther, -⟩ :=
    QueryMethod.compile_eq_ok_iff.mp compiledOther
  have model : other.model = query.model :=
    TypeReference.model.inj (typedOther.symm.trans (entity.symm.trans typed))
  refine ⟨exists_rearranged rearranged ?_, fun swapped reordered => ⟨?_, ?_⟩⟩
  · refine le_trans ?_ enough
    exact countP_takesArgument_le _
  · rw [exists_build compiled, exists_build compiledOther, model, orders]
    refine and_congr_left fun _ => ⟨?_, ?_⟩
    · exact exists_gives_of_reordered reordered.symm
    · exact exists_gives_of_reordered reordered
  · intro built otherBuilt bound boundOther store wraps
    have selected := select_reordered compiled compiledOther model orders limit reordered bound
      boundOther wraps
    have found : (query.raw settings (.store store) arguments).result =
        (other.raw settings (.store store) swapped).result := by
      rw [raw_result settings bound, raw_result settings boundOther, selected, model]
    refine ⟨selected, found, fun sameProjection => ?_⟩
    simp only [execute, Logged.result_bind, found]
    congr 1
    funext items
    simp only [shaped, shape, verb, projection, projectionOther, sameProjection]

end Reordered

/-- The unrated books between two titles. -/
def booksBetween : CompiledQuery :=
  { method := "findByTitleGreaterThanAndRatingIsNullAndTitleLessThan"
    model := bookModel
    projection := none
    name := ⟨.find, false, none, [[⟨"title", .greaterThan⟩, ⟨"rating", .isNull⟩,
      ⟨"title", .lessThan⟩]], []⟩
    clauses := [(⟨"title", .greaterThan⟩, .compares .greater), (⟨"rating", .isNull⟩, .isNull),
      (⟨"title", .lessThan⟩, .compares .less)] }

/-- The same books, asked for with the upper title first. -/
def booksBetweenFromAbove : CompiledQuery :=
  { method := "findByRatingIsNullAndTitleLessThanAndTitleGreaterThan"
    model := bookModel
    projection := none
    name := ⟨.find, false, none, [[⟨"rating", .isNull⟩, ⟨"title", .lessThan⟩,
      ⟨"title", .greaterThan⟩]], []⟩
    clauses := [(⟨"rating", .isNull⟩, .isNull), (⟨"title", .lessThan⟩, .compares .less),
      (⟨"title", .greaterThan⟩, .compares .greater)] }

theorem reordered_agree_books :
    (takenClauses booksBetweenFromAbove.name.clauses [.text "m", .text "A"]).Perm
      (takenClauses booksBetween.name.clauses [.text "A", .text "m"]) ∧
    (booksBetween.raw {} (.store bookStore) [.text "A", .text "m"]).result =
      (booksBetweenFromAbove.raw {} (.store bookStore)
        [.text "m", .text "A"]).result := by
  let method : QueryMethod := ⟨booksBetween.method, .model bookModel, none⟩
  let otherMethod : QueryMethod := ⟨booksBetweenFromAbove.method, .model bookModel, none⟩
  have parsed : QueryName.parse booksBetween.method = .ok booksBetween.name := by decide +kernel
  have parsedOther : QueryName.parse booksBetweenFromAbove.method =
      .ok booksBetweenFromAbove.name := by decide +kernel
  have compiled : method.compile = .ok booksBetween := by
    rw [QueryMethod.compile, parsed]
    rfl
  have compiledOther : otherMethod.compile = .ok booksBetweenFromAbove := by
    rw [QueryMethod.compile, parsedOther]
    rfl
  have entity : method.entity = otherMethod.entity := rfl
  have rearranged : booksBetweenFromAbove.name.clauses.Perm booksBetween.name.clauses := by decide
  have reordered : (takenClauses booksBetweenFromAbove.name.clauses [.text "m", .text "A"]).Perm
      (takenClauses booksBetween.name.clauses [.text "A", .text "m"]) :=
    .trans (.cons _ (.swap _ _ [])) (.swap _ _ _)
  have enough : (booksBetween.name.clauses.map Clause.argumentCount).sum ≤
      [Datum.text "A", .text "m"].length := by decide
  have bound : booksBetween.build [.text "A", .text "m"] = .ok ⟨"books",
      some (.composite "AND" [.property "t" .greater (.string "A"),
        .property "rating" .equal .null, .property "t" .less (.string "m")]), [], none⟩ := by
    rfl
  have boundOther : booksBetweenFromAbove.build [.text "m", .text "A"] = .ok ⟨"books",
      some (.composite "AND" [.property "rating" .equal .null,
        .property "t" .less (.string "m"), .property "t" .greater (.string "A")]), [], none⟩ := by
    rfl
  have wraps : ∀ record ∈ bookStore.records bookModel.kindName,
      booksBetween.FilteredWrap record := by
    have stored : bookStore.records bookModel.kindName =
        [[("t", .text "b"), ("rating", .integer 2)], [("t", .text "a"), ("rating", .null)],
          [("t", .text "c"), ("rating", .integer 3)]] := by
      rfl
    have all : ∀ record ∈ bookStore.records bookModel.kindName,
        ∀ entry ∈ record, entry.2.Wraps := by
      rw [stored]
      simp only [List.forall_mem_cons, List.not_mem_nil, false_implies, implies_true, and_true]
      simp [Datum.Wraps, Datum.wrap]
    exact fun record member _ _ _ _ datum found =>
      all record member _ (Dictionary.mem_of_get? found)
  obtain ⟨-, agree⟩ := reordered_agree {} entity compiled compiledOther rfl rfl rfl rearranged enough
  obtain ⟨-, selected⟩ := agree _ reordered
  obtain ⟨-, found, -⟩ := selected _ _ bound boundOther _ wraps
  exact ⟨reordered, found⟩

end CompiledQuery

end DerivedQuery
