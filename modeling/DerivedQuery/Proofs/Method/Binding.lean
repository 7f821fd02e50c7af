import DerivedQuery.Proofs.Method.Meaning

/-!
# Binding of arguments

A call gives each clause that takes an argument the one whose place is the number of such clauses
before it. Clauses are bound from left to right, each looking up its property before it takes an
argument, and the first one that cannot be bound decides the failure. The properties to sort by are
looked up after all clauses.
-/

set_option autoImplicit false

namespace DerivedQuery

namespace Model

/-- The model has a field of this name. -/
def HasField (model : Model) (property : String) : Prop :=
  property ∈ model.fields.map Field.name

instance (model : Model) (property : String) : Decidable (model.HasField property) :=
  inferInstanceAs (Decidable (_ ∈ _))

variable {model : Model} {property : String}

theorem exists_fieldName :
    (∃ field, model.fieldName property = .ok field) ↔ model.HasField property := by
  have keys : model.queryKeys.map Prod.fst = model.fields.map Field.name := by
    simp [queryKeys]
  rw [HasField, ← keys, ← Dictionary.isSome_get?, fieldName]
  cases Dictionary.get? model.queryKeys property <;> simp

theorem fieldName_eq_error {failure : Failure} :
    model.fieldName property = .error failure ↔
      ¬ model.HasField property ∧
        failure = .noSuchProperty property model.name model.kindName := by
  rw [← exists_fieldName, fieldName]
  cases Dictionary.get? model.queryKeys property <;> simp [eq_comm]

end Model

/-- The operator takes an argument. -/
def Clause.takesArgument (clause : Clause) : Bool := 0 < clause.argumentCount

namespace Clause

variable {clause : Clause}

theorem takesArgument_of_nullCheck (asksNull : clause.operator ∈ Operator.nullChecks) :
    clause.takesArgument = false := by
  rw [takesArgument, argumentCount, Operator.argumentCount_of_nullCheck asksNull]
  rfl

theorem takesArgument_of_comparison {comparison : Comparison}
    (compares : (clause.operator, comparison) ∈ Operator.comparisons) :
    clause.takesArgument = true := by
  rw [takesArgument, argumentCount, Operator.argumentCount_of_comparison compares]
  rfl

end Clause

/-- A clause with the argument that is left for it. -/
structure BoundClause where
  clause : Clause
  argument : Option Datum

/-- Each clause with the argument whose place is the number of clauses before it that take one. -/
def bindClauses (clauses : List Clause) (arguments : List Datum) : List BoundClause :=
  clauses.mapIdx fun i clause =>
    ⟨clause, arguments[(clauses.take i).countP Clause.takesArgument]?⟩

namespace BoundClause

/-- The filter of a clause. -/
inductive Gives (model : Model) : BoundClause → Filter → Prop
  | null {clause : Clause} {argument : Option Datum} {field : String}
      (asksNull : clause.operator ∈ Operator.nullChecks)
      (named : model.fieldName clause.property = .ok field) :
      Gives model ⟨clause, argument⟩ (.property field .equal .null)
  | compared {clause : Clause} {argument : Datum} {field : String} {comparison : Comparison}
      {value : Value} (compares : (clause.operator, comparison) ∈ Operator.comparisons)
      (named : model.fieldName clause.property = .ok field)
      (wrapped : argument.wrap = .ok value) :
      Gives model ⟨clause, some argument⟩ (.property field comparison value)

/-- Why a clause cannot be bound in a call with this number of arguments. -/
inductive Fails (model : Model) (method : String) (supplied : Nat) : BoundClause → Failure → Prop
  | unknown {clause : Clause} {argument : Option Datum}
      (absent : ¬ model.HasField clause.property) :
      Fails model method supplied ⟨clause, argument⟩
        (.noSuchProperty clause.property model.name model.kindName)
  | exhausted {clause : Clause} (present : model.HasField clause.property)
      (takes : clause.takesArgument = true) :
      Fails model method supplied ⟨clause, none⟩ (.tooFewArguments method supplied)
  | unwrapped {clause : Clause} {argument : Datum} {failure : Failure}
      (present : model.HasField clause.property) (takes : clause.takesArgument = true)
      (failed : argument.wrap = .error failure) :
      Fails model method supplied ⟨clause, some argument⟩ failure

end BoundClause

theorem bindClauses_cons (clause : Clause) (clauses : List Clause) (arguments : List Datum) :
    bindClauses (clause :: clauses) arguments =
      ⟨clause, arguments[0]?⟩ ::
        bindClauses clauses (arguments.drop (if clause.takesArgument then 1 else 0)) := by
  simp [bindClauses, List.mapIdx_cons, List.countP_cons, Nat.add_comm]

theorem clause_mem_of_mem_bindClauses {clauses : List Clause} {arguments : List Datum}
    {bound : BoundClause} (member : bound ∈ bindClauses clauses arguments) :
    bound.clause ∈ clauses := by
  obtain ⟨i, inside, rfl⟩ := List.mem_mapIdx.mp member
  exact List.getElem_mem inside

namespace BoundClause

variable {model : Model} {method : String} {supplied : Nat} {bound : BoundClause}

/-- One step of the binding, as the filters of clauses take it. -/
private def filter (model : Model) (method : String) (supplied : Nat) (bound : BoundClause) :
    Except Failure Filter := do
  let field ← model.fieldName bound.clause.property
  match bound.clause.operator.condition?, bound.argument with
  | some (.compares comparison), some argument => Filter.compare field comparison argument
  | some (.compares _), none => .error (.tooFewArguments method supplied)
  | _, _ => .ok (.isNull field)

private theorem filter_of_nullCheck (asksNull : bound.clause.operator ∈ Operator.nullChecks) :
    bound.filter model method supplied =
      (model.fieldName bound.clause.property).map Filter.isNull := by
  unfold filter
  rw [Operator.condition?_eq_isNull.mpr asksNull]
  cases model.fieldName bound.clause.property <;> rfl

private theorem filter_of_comparison {comparison : Comparison}
    (compares : (bound.clause.operator, comparison) ∈ Operator.comparisons) :
    bound.filter model method supplied =
      model.fieldName bound.clause.property >>= fun field =>
        match bound.argument with
        | some argument => Filter.compare field comparison argument
        | none => .error (.tooFewArguments method supplied) := by
  unfold filter
  rw [Operator.condition?_eq_compares.mpr compares]
  cases bound.argument <;> rfl

private theorem nullCheck_or_comparison {operator : Operator} (supported : operator.Supported) :
    operator ∈ Operator.nullChecks ∨
      ∃ comparison, (operator, comparison) ∈ Operator.comparisons := by
  simpa [Operator.Supported] using supported

private theorem filter_eq_ok (supported : bound.clause.operator.Supported) {built : Filter} :
    bound.filter model method supplied = .ok built ↔ bound.Gives model built := by
  constructor
  · intro filtered
    rcases nullCheck_or_comparison supported with asksNull | ⟨comparison, compares⟩
    · rw [filter_of_nullCheck asksNull] at filtered
      obtain ⟨field, named, rfl⟩ := map_eq_ok.mp filtered
      exact .null asksNull named
    · rw [filter_of_comparison compares] at filtered
      obtain ⟨field, named, compared⟩ := bind_eq_ok.mp filtered
      obtain ⟨clause, argument⟩ := bound
      cases argument with
      | none => exact nomatch compared
      | some argument =>
          obtain ⟨value, wrapped, rfl⟩ := map_eq_ok.mp compared
          exact .compared compares named wrapped
  · intro gives
    cases gives with
    | null asksNull named =>
        rw [filter_of_nullCheck asksNull]
        exact map_eq_ok.mpr ⟨_, named, rfl⟩
    | compared compares named wrapped =>
        rw [filter_of_comparison compares]
        exact bind_eq_ok.mpr ⟨_, named, map_eq_ok.mpr ⟨_, wrapped, rfl⟩⟩

private theorem filter_eq_error (supported : bound.clause.operator.Supported) {failure : Failure} :
    bound.filter model method supplied = .error failure ↔
      bound.Fails model method supplied failure := by
  obtain ⟨clause, argument⟩ := bound
  constructor
  · intro failed
    rcases nullCheck_or_comparison supported with asksNull | ⟨comparison, compares⟩
    · rw [filter_of_nullCheck asksNull, map_eq_error] at failed
      obtain ⟨absent, rfl⟩ := Model.fieldName_eq_error.mp failed
      exact .unknown absent
    · have takes := Clause.takesArgument_of_comparison compares
      rw [filter_of_comparison compares] at failed
      rcases bind_eq_error.mp failed with failed | ⟨field, named, failed⟩
      · obtain ⟨absent, rfl⟩ := Model.fieldName_eq_error.mp failed
        exact .unknown absent
      · have present := Model.exists_fieldName.mp ⟨field, named⟩
        cases argument with
        | none =>
            obtain rfl := Except.error.inj failed
            exact .exhausted present takes
        | some argument => exact .unwrapped present takes (map_eq_error.mp failed)
  · intro fails
    rcases nullCheck_or_comparison supported with asksNull | ⟨comparison, compares⟩
    · rw [filter_of_nullCheck asksNull, map_eq_error]
      have takesNone := Clause.takesArgument_of_nullCheck asksNull
      cases fails with
      | unknown absent => exact Model.fieldName_eq_error.mpr ⟨absent, rfl⟩
      | exhausted present takes => exact nomatch takesNone.symm.trans takes
      | unwrapped present takes failed => exact nomatch takesNone.symm.trans takes
    · rw [filter_of_comparison compares]
      cases fails with
      | unknown absent =>
          exact bind_eq_error.mpr (.inl (Model.fieldName_eq_error.mpr ⟨absent, rfl⟩))
      | exhausted present takes =>
          obtain ⟨field, named⟩ := Model.exists_fieldName.mpr present
          exact bind_eq_error.mpr (.inr ⟨field, named, rfl⟩)
      | unwrapped present takes failed =>
          obtain ⟨field, named⟩ := Model.exists_fieldName.mpr present
          exact bind_eq_error.mpr (.inr ⟨field, named, map_eq_error.mpr failed⟩)

theorem exists_gives_of_nullCheck (asksNull : bound.clause.operator ∈ Operator.nullChecks) :
    (∃ filter, bound.Gives model filter) ↔ model.HasField bound.clause.property := by
  rw [← Model.exists_fieldName]
  constructor
  · rintro ⟨filter, gives⟩
    cases gives with
    | null asksNull named => exact ⟨_, named⟩
    | compared compares named wrapped => exact ⟨_, named⟩
  · rintro ⟨field, named⟩
    exact ⟨_, .null asksNull named⟩

theorem exists_gives_of_comparison {comparison : Comparison}
    (compares : (bound.clause.operator, comparison) ∈ Operator.comparisons) :
    (∃ filter, bound.Gives model filter) ↔
      model.HasField bound.clause.property ∧ ∃ argument ∈ bound.argument, argument.Wraps := by
  rw [← Model.exists_fieldName]
  constructor
  · rintro ⟨filter, gives⟩
    cases gives with
    | null asksNull named =>
        have takesNone := Clause.takesArgument_of_nullCheck asksNull
        exact nomatch takesNone.symm.trans (Clause.takesArgument_of_comparison compares)
    | compared compares named wrapped => exact ⟨⟨_, named⟩, _, rfl, _, wrapped⟩
  · obtain ⟨clause, argument⟩ := bound
    rintro ⟨⟨field, named⟩, argument, rfl, value, wrapped⟩
    exact ⟨_, .compared compares named wrapped⟩

/-- Binding gives a filter to every clause whose property is a field, as long as the arguments
suffice and those that are taken can be wrapped. -/
theorem exists_gives_iff {clauses : List Clause} {arguments : List Datum}
    (supported : ∀ clause ∈ clauses, clause.operator.Supported) :
    (∀ bound ∈ bindClauses clauses arguments, ∃ filter, bound.Gives model filter) ↔
      (∀ clause ∈ clauses, model.HasField clause.property) ∧
        (clauses.map Clause.argumentCount).sum ≤ arguments.length ∧
        ∀ argument ∈ arguments.take (clauses.map Clause.argumentCount).sum, argument.Wraps := by
  induction clauses generalizing arguments with
  | nil => simp [bindClauses]
  | cons clause clauses ih =>
      obtain ⟨here, later⟩ := List.forall_mem_cons.mp supported
      rw [bindClauses_cons, List.forall_mem_cons, ih later, List.forall_mem_cons, List.map_cons,
        List.sum_cons]
      rcases nullCheck_or_comparison here with asksNull | ⟨comparison, compares⟩
      · have count : clause.argumentCount = 0 := Operator.argumentCount_of_nullCheck asksNull
        rw [exists_gives_of_nullCheck asksNull, count, Clause.takesArgument_of_nullCheck asksNull]
        simp [and_assoc]
      · have count : clause.argumentCount = 1 := Operator.argumentCount_of_comparison compares
        rw [exists_gives_of_comparison compares, count, Clause.takesArgument_of_comparison compares]
        cases arguments with
        | nil => simp
        | cons argument arguments =>
            rw [Nat.add_comm 1, List.take_succ_cons, List.length_cons, Nat.add_le_add_iff_right,
              List.forall_mem_cons]
            simp [and_assoc, and_left_comm]

end BoundClause

namespace CompiledQuery

/-- The filters of clauses are those of the clauses as they are bound. The cursor has taken all
arguments that are not left. -/
private theorem clauseFilters_eq_mapM {model : Model} {pairs : List (Clause × Condition)}
    {cursor : ArgumentCursor} {supplied : Nat}
    (conditions : ∀ pair ∈ pairs, pair.1.operator.condition? = some pair.2)
    (total : cursor.consumed + cursor.remaining.length = supplied) :
    clauseFilters Datum.wrap model cursor pairs =
      (bindClauses (pairs.map Prod.fst) cursor.remaining).mapM
        (BoundClause.filter model cursor.method supplied) := by
  induction pairs generalizing cursor with
  | nil => rfl
  | cons pair rest ih =>
      obtain ⟨clause, condition⟩ := pair
      obtain ⟨isCondition, later⟩ := List.forall_mem_cons.mp conditions
      rw [clauseFilters, List.map_cons, bindClauses_cons, List.mapM_cons]
      cases condition with
      | isNull =>
          have asksNull := Operator.condition?_eq_isNull.mp isCondition
          rw [BoundClause.filter_of_nullCheck asksNull, Clause.takesArgument_of_nullCheck asksNull,
            ih later total]
          cases model.fieldName clause.property <;> rfl
      | compares comparison =>
          have compares := Operator.condition?_eq_compares.mp isCondition
          rw [BoundClause.filter_of_comparison compares,
            Clause.takesArgument_of_comparison compares]
          obtain ⟨method, remaining, consumed⟩ := cursor
          cases named : model.fieldName clause.property with
          | error failure => rfl
          | ok field =>
              cases remaining with
              | nil =>
                  obtain rfl : consumed = supplied := by simpa using total
                  rfl
              | cons argument remaining =>
                  have moved : consumed + 1 + remaining.length = supplied := by
                    simp only [List.length_cons] at total
                    omega
                  have after := @ih ⟨method, remaining, consumed + 1⟩ later moved
                  change (Filter.compare field comparison argument >>= fun filter =>
                      clauseFilters Datum.wrap model ⟨method, remaining, consumed + 1⟩ rest >>=
                        fun filters => .ok (filter :: filters)) = _
                  rw [after]
                  rfl

end CompiledQuery

/-- One filter stands for itself, several are joined by `AND`, and none leave no filter. -/
inductive Joined : List Filter → Option Filter → Prop
  | none : Joined [] none
  | bare (filter : Filter) : Joined [filter] (some filter)
  | conjunction (first second : Filter) (rest : List Filter) :
      Joined (first :: second :: rest) (some (.composite "AND" (first :: second :: rest)))

theorem joined_iff {filters : List Filter} {filter : Option Filter} :
    Joined filters filter ↔ filter = CompiledQuery.joinFilters filters := by
  constructor
  · intro joined
    cases joined <;> rfl
  · rintro rfl
    match filters with
    | [] => exact .none
    | [filter] => exact .bare filter
    | first :: second :: rest => exact .conjunction first second rest

namespace QueryName

/-- The query that a call of a name builds. -/
structure Builds (name : QueryName) (model : Model) (arguments : List Datum)
    (built : StructuredQuery) : Prop where
  kind : built.kind = model.kindName
  filter : ∃ filters, List.Forall₂ (BoundClause.Gives model)
    (bindClauses name.clauses arguments) filters ∧ Joined filters built.filter
  orders : List.Forall₂ (fun key order => model.fieldName key.property = .ok order.field ∧
    order.direction = key.direction) name.orders built.orders
  limit : built.limit = name.limit.map Int.ofNat

/-- The first clause, or else the first property to sort by, that makes a call fail. -/
inductive BuildFails (name : QueryName) (model : Model) (method : String)
    (arguments : List Datum) : Failure → Prop
  | clause {front back : List BoundClause} {bound : BoundClause} {failure : Failure}
      (clauses : bindClauses name.clauses arguments = front ++ bound :: back)
      (before : ∀ other ∈ front, ∃ filter, other.Gives model filter)
      (fails : bound.Fails model method arguments.length failure) :
      BuildFails name model method arguments failure
  | order {front back : List SortKey} {key : SortKey}
      (gives : ∀ bound ∈ bindClauses name.clauses arguments, ∃ filter, bound.Gives model filter)
      (orders : name.orders = front ++ key :: back)
      (before : ∀ other ∈ front, model.HasField other.property)
      (absent : ¬ model.HasField key.property) :
      BuildFails name model method arguments
        (.noSuchProperty key.property model.name model.kindName)

end QueryName

namespace CompiledQuery

variable {method : QueryMethod} {query : CompiledQuery} {arguments : List Datum}

section Parts

variable {model : Model} {name : QueryName}

private def fieldOrder (model : Model) (key : SortKey) : Except Failure FieldOrder := do
  let field ← model.fieldName key.property
  .ok ⟨field, key.direction⟩

private theorem fieldOrder_eq_ok {key : SortKey} {order : FieldOrder} :
    fieldOrder model key = .ok order ↔
      model.fieldName key.property = .ok order.field ∧ order.direction = key.direction := by
  obtain ⟨field, direction⟩ := order
  unfold fieldOrder
  cases model.fieldName key.property <;> simp [bind, Except.bind, eq_comm]

private theorem fieldOrder_eq_error {key : SortKey} {failure : Failure} :
    fieldOrder model key = .error failure ↔
      ¬ model.HasField key.property ∧
        failure = .noSuchProperty key.property model.name model.kindName := by
  rw [← Model.fieldName_eq_error]
  unfold fieldOrder
  cases model.fieldName key.property <;> simp [bind, Except.bind]

private theorem exists_fieldOrder {key : SortKey} :
    (∃ order, fieldOrder model key = .ok order) ↔ model.HasField key.property := by
  rw [← Model.exists_fieldName]
  unfold fieldOrder
  cases model.fieldName key.property <;> simp [bind, Except.bind]

end Parts

private theorem build_eq (compiled : method.compile = .ok query) : query.build arguments =
    (bindClauses query.name.clauses arguments).mapM
        (BoundClause.filter query.model method.name arguments.length) >>= fun filters =>
      query.name.orders.mapM (fieldOrder query.model) >>= fun orders =>
        .ok ⟨query.model.kindName, joinFilters filters, orders,
          query.name.limit.map Int.ofNat⟩ := by
  obtain ⟨-, isMethod, -, clauses, conditions⟩ := QueryMethod.compile_eq_ok_iff.mp compiled
  rw [← clauses, ← isMethod]
  unfold build buildWith
  rw [clauseFilters_eq_mapM conditions (Nat.zero_add arguments.length)]
  rfl

private theorem supported_bound (compiled : method.compile = .ok query) :
    ∀ bound ∈ bindClauses query.name.clauses arguments, bound.clause.operator.Supported := by
  intro bound member
  have compiles := (QueryMethod.compile_eq_ok_iff.mp compiled).1
  exact compiles.answerable.supported bound.clause (clause_mem_of_mem_bindClauses member)

theorem build_eq_ok_iff (compiled : method.compile = .ok query) {built : StructuredQuery} :
    query.build arguments = .ok built ↔ query.name.Builds query.model arguments built := by
  have filters_iff (filters : List Filter) :
      (bindClauses query.name.clauses arguments).mapM
          (BoundClause.filter query.model method.name arguments.length) = .ok filters ↔
        List.Forall₂ (BoundClause.Gives query.model)
          (bindClauses query.name.clauses arguments) filters := by
    rw [mapM_eq_ok]
    exact forall₂_congr_of_mem fun bound member filter =>
      BoundClause.filter_eq_ok (supported_bound compiled bound member)
  rw [build_eq compiled]
  constructor
  · intro bound
    obtain ⟨filters, filtered, bound⟩ := bind_eq_ok.mp bound
    obtain ⟨orders, sorted, same⟩ := bind_eq_ok.mp bound
    obtain rfl := Except.ok.inj same
    refine ⟨rfl, ⟨filters, (filters_iff filters).mp filtered, joined_iff.mpr rfl⟩, ?_, rfl⟩
    exact (mapM_eq_ok.mp sorted).imp fun key order => fieldOrder_eq_ok.mp
  · obtain ⟨kind, filter, orders, limit⟩ := built
    rintro ⟨rfl, ⟨filters, given, joined⟩, sorted, rfl⟩
    obtain rfl := joined_iff.mp joined
    refine bind_eq_ok.mpr ⟨filters, (filters_iff filters).mpr given, ?_⟩
    refine bind_eq_ok.mpr ⟨orders, mapM_eq_ok.mpr ?_, rfl⟩
    exact sorted.imp fun key order => fieldOrder_eq_ok.mpr

private theorem exists_filters (compiled : method.compile = .ok query) :
    (∃ filters, (bindClauses query.name.clauses arguments).mapM
        (BoundClause.filter query.model method.name arguments.length) = .ok filters) ↔
      ∀ bound ∈ bindClauses query.name.clauses arguments,
        ∃ filter, bound.Gives query.model filter := by
  simp only [mapM_eq_ok, exists_forall₂]
  refine forall₂_congr fun bound member => exists_congr fun filter => ?_
  exact BoundClause.filter_eq_ok (supported_bound compiled bound member)

theorem build_eq_error_iff (compiled : method.compile = .ok query) {failure : Failure} :
    query.build arguments = .error failure ↔
      query.name.BuildFails query.model method.name arguments failure := by
  have supported := @supported_bound method query arguments compiled
  rw [build_eq compiled]
  constructor
  · intro failed
    rcases bind_eq_error.mp failed with failed | ⟨filters, filtered, failed⟩
    · obtain ⟨front, bound, back, clauses, before, fails⟩ := mapM_eq_error.mp failed
      rw [clauses] at supported
      refine .clause clauses (fun other member => ?_) ?_
      · obtain ⟨filter, gives⟩ := before other member
        exact ⟨filter, (BoundClause.filter_eq_ok (supported other (by simp [member]))).mp gives⟩
      · exact (BoundClause.filter_eq_error (supported bound (by simp))).mp fails
    · rcases bind_eq_error.mp failed with failed | ⟨orders, -, contra⟩
      · obtain ⟨front, key, back, orders, before, fails⟩ := mapM_eq_error.mp failed
        obtain ⟨absent, rfl⟩ := fieldOrder_eq_error.mp fails
        refine .order ((exists_filters compiled).mp ⟨filters, filtered⟩) orders ?_ absent
        exact fun other member => exists_fieldOrder.mp (before other member)
      · exact nomatch contra
  · intro fails
    cases fails with
    | @clause front back bound _ clauses before fails =>
        rw [clauses] at supported
        refine bind_eq_error.mpr (.inl (mapM_eq_error.mpr ⟨_, _, _, clauses, ?_, ?_⟩))
        · intro other member
          obtain ⟨filter, gives⟩ := before other member
          exact ⟨filter, (BoundClause.filter_eq_ok (supported other (by simp [member]))).mpr gives⟩
        · exact (BoundClause.filter_eq_error (supported bound (by simp))).mpr fails
    | order gives orders before absent =>
        obtain ⟨filters, filtered⟩ := (exists_filters compiled).mpr gives
        refine bind_eq_error.mpr (.inr ⟨filters, filtered, bind_eq_error.mpr (.inl ?_)⟩)
        refine mapM_eq_error.mpr ⟨_, _, _, orders, ?_, fieldOrder_eq_error.mpr ⟨absent, rfl⟩⟩
        exact fun other member => exists_fieldOrder.mpr (before other member)

theorem exists_build (compiled : method.compile = .ok query) :
    (∃ built, query.build arguments = .ok built) ↔
      (∀ bound ∈ bindClauses query.name.clauses arguments,
        ∃ filter, bound.Gives query.model filter) ∧
        ∀ key ∈ query.name.orders, query.model.HasField key.property := by
  rw [build_eq compiled, ← exists_filters compiled]
  constructor
  · rintro ⟨built, bound⟩
    obtain ⟨filters, filtered, bound⟩ := bind_eq_ok.mp bound
    obtain ⟨orders, sorted, -⟩ := bind_eq_ok.mp bound
    refine ⟨⟨filters, filtered⟩, fun key member => exists_fieldOrder.mp ?_⟩
    exact exists_forall₂.mp ⟨orders, mapM_eq_ok.mp sorted⟩ key member
  · rintro ⟨⟨filters, filtered⟩, present⟩
    obtain ⟨orders, sorted⟩ :=
      exists_forall₂.mpr fun key member => exists_fieldOrder.mpr (present key member)
    exact ⟨_, bind_eq_ok.mpr
      ⟨filters, filtered, bind_eq_ok.mpr ⟨orders, mapM_eq_ok.mpr sorted, rfl⟩⟩⟩

end CompiledQuery

end DerivedQuery
