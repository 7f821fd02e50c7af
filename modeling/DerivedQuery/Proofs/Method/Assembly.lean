import DerivedQuery.Proofs.Method.Binding
import DerivedQuery.Proofs.Value.Wrap

/-!
# Step by step assembly of queries

A query can also be put together without what compiling has settled: every clause is looked up among
the null checks and the comparisons when it is its turn, the filters are joined by a conjunction
that wants at least one, a builder takes a sort order that must not be empty, and it gives a query
only when it has a kind. All of these steps may fail on their own. For a compiled method none of
them does: the assembly agrees with the call, which fails only where binding does.
-/

set_option autoImplicit false

namespace DerivedQuery

/-- What goes wrong in an assembly: one of its steps fails, the operator of a clause is listed
nowhere, or the first of no filters is asked for. -/
inductive AssemblyFault where
  | step (failure : Failure)
  | unlisted (operator : Operator)
  | noFilter

namespace Assembly

def clauseFilter (model : Model) (cursor : ArgumentCursor) (clause : Clause) :
    Except AssemblyFault (Filter × ArgumentCursor) := do
  let field ← (model.fieldName clause.property).mapError .step
  if clause.operator ∈ Operator.nullChecks then .ok (.isNull field, cursor)
  else
    match Dictionary.get? Operator.comparisons clause.operator with
    | none => .error (.unlisted clause.operator)
    | some comparison => do
        let (argument, cursor) ← cursor.next.mapError .step
        let filter ← (Filter.compare field comparison argument).mapError .step
        .ok (filter, cursor)

def clauseFilters (model : Model) (cursor : ArgumentCursor) :
    List Clause → Except AssemblyFault (List Filter)
  | [] => .ok []
  | clause :: rest => do
      let (filter, cursor) ← clauseFilter model cursor clause
      let filters ← clauseFilters model cursor rest
      .ok (filter :: filters)

def condition (filters : List Filter) : Except AssemblyFault Filter :=
  if 1 < filters.length then (Filter.conjunction filters).mapError .step
  else
    match filters with
    | [] => .error .noFilter
    | filter :: _ => .ok filter

def fieldOrder (model : Model) (key : SortKey) : Except AssemblyFault FieldOrder := do
  let field ← (model.fieldName key.property).mapError .step
  .ok ⟨field, key.direction⟩

def setFilter (model : Model) (cursor : ArgumentCursor) (clauses : List Clause)
    (builder : QueryBuilder) : Except AssemblyFault QueryBuilder :=
  if clauses.isEmpty then .ok builder
  else do
    let filters ← clauseFilters model cursor clauses
    let filter ← condition filters
    .ok { builder with filter := some filter }

def setOrders (model : Model) (keys : List SortKey) (builder : QueryBuilder) :
    Except AssemblyFault QueryBuilder :=
  if keys.isEmpty then .ok builder
  else do
    let orders ← keys.mapM (fieldOrder model)
    (builder.setOrders orders).mapError .step

def setLimit (limit : Option Nat) (builder : QueryBuilder) : QueryBuilder :=
  match limit with
  | none => builder
  | some limit => { builder with limit := some (Int.ofNat limit) }

/-- The query that is put together for a call of a method. -/
def build (method : String) (model : Model) (name : QueryName) (arguments : List Datum) :
    Except AssemblyFault StructuredQuery := do
  let builder ← setFilter model ⟨method, arguments, 0⟩ name.clauses { kind := some model.kindName }
  let builder ← setOrders model name.orders builder
  (setLimit name.limit builder).build.mapError .step

variable {model : Model}

theorem clauseFilter_of_nullCheck {cursor : ArgumentCursor} {clause : Clause}
    (asksNull : clause.operator ∈ Operator.nullChecks) :
    clauseFilter model cursor clause =
      (model.fieldName clause.property).mapError .step >>= fun field =>
        .ok (.isNull field, cursor) := by
  unfold clauseFilter
  simp only [if_pos asksNull]

theorem clauseFilter_of_comparison {cursor : ArgumentCursor} {clause : Clause}
    {comparison : Comparison} (compares : (clause.operator, comparison) ∈ Operator.comparisons) :
    clauseFilter model cursor clause =
      (model.fieldName clause.property).mapError .step >>= fun field =>
        cursor.next.mapError .step >>= fun taken =>
          (Filter.compare field comparison taken.1).mapError .step >>= fun filter =>
            .ok (filter, taken.2) := by
  have listed : Dictionary.get? Operator.comparisons clause.operator = some comparison :=
    Dictionary.get?_of_mem (by decide) compares
  unfold clauseFilter
  simp only [if_neg (Operator.not_nullCheck_of_comparison compares), listed]

/-- No clause of a compiled method is looked up in vain. -/
theorem clauseFilters_eq {pairs : List (Clause × Condition)} {cursor : ArgumentCursor}
    (conditions : ∀ pair ∈ pairs, pair.1.operator.condition? = some pair.2) :
    clauseFilters model cursor (pairs.map Prod.fst) =
      (CompiledQuery.clauseFilters Datum.wrap model cursor pairs).mapError .step := by
  induction pairs generalizing cursor with
  | nil => rfl
  | cons pair rest ih =>
      obtain ⟨clause, condition⟩ := pair
      obtain ⟨isCondition, later⟩ := List.forall_mem_cons.mp conditions
      rw [List.map_cons, clauseFilters, CompiledQuery.clauseFilters]
      cases condition with
      | isNull =>
          rw [clauseFilter_of_nullCheck (Operator.condition?_eq_isNull.mp isCondition)]
          simp only [ih later, mapError_bind, bind_assoc]
          rfl
      | compares comparison =>
          rw [clauseFilter_of_comparison (Operator.condition?_eq_compares.mp isCondition)]
          simp only [ih later, mapError_bind, bind_assoc]
          rfl

theorem condition_eq {filters : List Filter} (given : filters ≠ []) :
    ∃ filter, condition filters = .ok filter ∧
      CompiledQuery.joinFilters filters = some filter := by
  match filters with
  | [] => exact absurd rfl given
  | [filter] => exact ⟨filter, rfl, rfl⟩
  | first :: second :: rest => exact ⟨.composite "AND" (first :: second :: rest), rfl, rfl⟩

theorem setFilter_eq {pairs : List (Clause × Condition)} {cursor : ArgumentCursor}
    {builder : QueryBuilder} (unfiltered : builder.filter = none)
    (conditions : ∀ pair ∈ pairs, pair.1.operator.condition? = some pair.2) :
    setFilter model cursor (pairs.map Prod.fst) builder =
      (CompiledQuery.clauseFilters Datum.wrap model cursor pairs).mapError .step >>= fun filters =>
        .ok { builder with filter := CompiledQuery.joinFilters filters } := by
  unfold setFilter
  rw [clauseFilters_eq conditions]
  cases filtered : CompiledQuery.clauseFilters Datum.wrap model cursor pairs with
  | error failure =>
      cases pairs with
      | nil => exact nomatch filtered
      | cons pair rest => rfl
  | ok filters =>
      have lengths := (CompiledQuery.clauseFilters_compare filtered).length_eq
      cases pairs with
      | nil =>
          obtain rfl := List.length_eq_zero_iff.mp lengths.symm
          obtain ⟨kind, filter, orders, limit⟩ := builder
          obtain rfl : filter = none := unfiltered
          rfl
      | cons pair rest =>
          have given : filters ≠ [] := by
            rintro rfl
            exact nomatch lengths
          obtain ⟨filter, isFilter, joined⟩ := condition_eq given
          change (condition filters >>= fun filter => .ok { builder with filter := some filter }) =
            .ok { builder with filter := CompiledQuery.joinFilters filters }
          rw [isFilter, joined]
          rfl

theorem setOrders_eq {keys : List SortKey} {builder : QueryBuilder}
    (unsorted : builder.orders = []) :
    setOrders model keys builder =
      keys.mapM (fieldOrder model) >>= fun orders => .ok { builder with orders } := by
  unfold setOrders
  cases keys with
  | nil =>
      obtain ⟨kind, filter, orders, limit⟩ := builder
      obtain rfl : orders = [] := unsorted
      rfl
  | cons key rest =>
      rw [if_neg (by simp)]
      cases sorted : (key :: rest).mapM (fieldOrder model) with
      | error fault => rfl
      | ok orders =>
          cases orders with
          | nil => exact nomatch (mapM_eq_ok.mp sorted).length_eq
          | cons order others => rfl

/-- The assembly for a compiled method fails nowhere else than the call. -/
theorem build_eq {method : QueryMethod} {query : CompiledQuery}
    (compiled : method.compile = .ok query) (arguments : List Datum) :
    build query.method query.model query.name arguments =
      (query.build arguments).mapError .step := by
  obtain ⟨-, -, -, clauses, conditions⟩ := QueryMethod.compile_eq_ok_iff.mp compiled
  unfold build CompiledQuery.build CompiledQuery.buildWith
  rw [← clauses, setFilter_eq rfl conditions]
  simp only [mapError_bind, mapError_mapM, bind_assoc]
  refine bind_congr fun filters => ?_
  change setOrders query.model query.name.orders
    ⟨some query.model.kindName, CompiledQuery.joinFilters filters, [], none⟩ >>= _ = _
  rw [setOrders_eq rfl, bind_assoc]
  refine bind_congr fun orders => ?_
  cases query.name.limit <;> rfl

end Assembly

/-! ## What a call fails with -/

/-- Wrapping as far as calls may be nested: a datum is wrapped, or given up for a recursion that is
too deep. -/
def Datum.WrapsToDepth (wrap : Datum → Except Failure Value) : Prop :=
  ∀ datum, wrap datum = datum.wrap ∨
    ∃ failure, wrap datum = .error failure ∧ failure.failureClass = .recursion

/-- The failures of a call of a compiled method. -/
inductive Failure.OfCall (method : QueryMethod) (model : Model)
    (wrap : Datum → Except Failure Value) (arguments : List Datum) : Failure → Prop
  | property (property : String) :
      OfCall method model wrap arguments (.noSuchProperty property model.name model.kindName)
  | tooFew (consumed : Nat) :
      OfCall method model wrap arguments (.tooFewArguments method.name consumed)
  | wrapping {argument : Datum} {failure : Failure} (given : argument ∈ arguments)
      (failed : wrap argument = .error failure) : OfCall method model wrap arguments failure

namespace Failure.OfCall

variable {method : QueryMethod} {model : Model} {wrap : Datum → Except Failure Value}
  {arguments : List Datum} {failure : Failure}

/-- What wraps to some depth fails where wrapping does, or gives an argument up. -/
theorem failureClass_or_recursion (toDepth : Datum.WrapsToDepth wrap)
    (writable : ∀ argument ∈ arguments, argument.Writable)
    (failed : failure.OfCall method model wrap arguments) :
    failure.failureClass ∈ [FailureClass.propertyNotFound, .tooFewArguments,
        .unsupportedValueType, .overflow] ∨
      failure.failureClass = .recursion ∧
        ∃ argument ∈ arguments, wrap argument = .error failure ∧ argument.wrap ≠ wrap argument := by
  cases failed with
  | property property => exact .inl (by simp [Failure.failureClass])
  | tooFew consumed => exact .inl (by simp [Failure.failureClass])
  | @wrapping argument failure given failed =>
      by_cases same : argument.wrap = wrap argument
      · have fails := same.trans failed
        have written := argument.wrap_ne_unwritten (writable argument given)
        cases argument.ofWrapping fails with
        | unsupported typeName => exact .inl (by simp [Failure.failureClass])
        | outOfRange => exact .inl (by simp [Failure.failureClass])
        | unwritten => exact absurd fails written
      · rcases toDepth argument with again | ⟨other, gaveUp, deep⟩
        · exact absurd again.symm same
        · obtain rfl := Except.error.inj (failed.symm.trans gaveUp)
          exact .inr ⟨deep, argument, given, failed, same⟩

theorem failureClass (writable : ∀ argument ∈ arguments, argument.Writable)
    (failed : failure.OfCall method model Datum.wrap arguments) :
    failure.failureClass ∈ [FailureClass.propertyNotFound, .tooFewArguments,
      .unsupportedValueType, .overflow] := by
  rcases failed.failureClass_or_recursion (fun _ => .inl rfl) writable with
    listed | ⟨-, _, -, -, contra⟩
  · exact listed
  · exact absurd rfl contra

end Failure.OfCall

namespace CompiledQuery

variable {wrap : Datum → Except Failure Value} {failure : Failure}

end CompiledQuery

end DerivedQuery
