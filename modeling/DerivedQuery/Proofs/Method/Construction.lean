import DerivedQuery.Method
import DerivedQuery.Proofs.Logged
import DerivedQuery.Proofs.Passes

/-!
# Construction of query methods

A method is compiled when its name parses, its entity is a model, and the store can answer what the
name asks for: no deletion, no `Distinct`, one group of clauses at most, and only operators that ask
for null or stand for a comparison. Otherwise the first condition that does not hold is reported.
-/

set_option autoImplicit false

namespace DerivedQuery

namespace Operator

def nullChecks : List Operator := [.isNull, .isEmpty]

def comparisons : List (Operator × Comparison) :=
  [(.simpleProperty, .equal), (.greaterThanEqual, .greaterOrEqual), (.greaterThan, .greater),
    (.lessThanEqual, .lessOrEqual), (.lessThan, .less)]

/-- A store can filter on the operator. -/
def Supported (operator : Operator) : Prop :=
  operator ∈ nullChecks ∨ operator ∈ comparisons.map Prod.fst

instance (operator : Operator) : Decidable operator.Supported :=
  inferInstanceAs (Decidable (_ ∨ _))

variable {operator : Operator}

theorem condition?_eq_isNull : operator.condition? = some .isNull ↔ operator ∈ nullChecks := by
  cases operator <;> decide

theorem condition?_eq_compares {comparison : Comparison} :
    operator.condition? = some (.compares comparison) ↔ (operator, comparison) ∈ comparisons := by
  cases operator <;> simp [condition?, comparisons, eq_comm]

theorem condition?_eq_none : operator.condition? = none ↔ ¬ operator.Supported := by
  cases operator <;> decide

theorem not_nullCheck_of_comparison {comparison : Comparison}
    (compares : (operator, comparison) ∈ comparisons) : operator ∉ nullChecks := by
  have listed : operator ∈ comparisons.map Prod.fst := List.mem_map_of_mem compares
  revert listed
  cases operator <;> decide

theorem argumentCount_of_nullCheck (asksNull : operator ∈ nullChecks) :
    operator.argumentCount = 0 := by
  revert asksNull
  cases operator <;> decide

theorem argumentCount_of_comparison {comparison : Comparison}
    (compares : (operator, comparison) ∈ comparisons) : operator.argumentCount = 1 := by
  have listed : operator ∈ comparisons.map Prod.fst := List.mem_map_of_mem compares
  revert listed
  cases operator <;> decide

end Operator

/-- What a name may ask of a store. -/
structure QueryName.Answerable (name : QueryName) : Prop where
  keeping : name.verb ∉ [Verb.delete, Verb.remove]
  repeating : name.distinct = false
  conjunctive : name.groups.length ≤ 1
  supported : ∀ clause ∈ name.clauses, clause.operator.Supported

/-- The first condition that a name does not meet, with what is reported. -/
inductive QueryName.Refused (method : String) (name : QueryName) : Failure → Prop
  | deletes (deletes : name.verb ∈ [Verb.delete, Verb.remove]) :
      Refused method name (.deleteQuery method)
  | distinct (keeping : name.verb ∉ [Verb.delete, Verb.remove]) (distinct : name.distinct = true) :
      Refused method name (.distinctQuery method)
  | disjunctive (keeping : name.verb ∉ [Verb.delete, Verb.remove])
      (repeating : name.distinct = false) (several : 1 < name.groups.length) :
      Refused method name (.disjunctiveQuery method)
  | unsupported {front back : List Clause} {clause : Clause}
      (keeping : name.verb ∉ [Verb.delete, Verb.remove]) (repeating : name.distinct = false)
      (conjunctive : name.groups.length ≤ 1) (clauses : name.clauses = front ++ clause :: back)
      (before : ∀ other ∈ front, other.operator.Supported)
      (unsupported : ¬ clause.operator.Supported) :
      Refused method name (.operator method clause.property clause.operator)

namespace QueryMethod

/-- The conditions under which a method is compiled. -/
structure Compiles (method : QueryMethod) (name : QueryName) (model : Model) : Prop where
  parsed : QueryName.parse method.name = .ok name
  typed : method.entity = .model model
  answerable : name.Answerable

/-- The first condition that a method does not meet, with what is reported. -/
inductive Rejected (method : QueryMethod) : Failure → Prop
  | unreadable {fault : NameFault} (failed : QueryName.parse method.name = .error fault) :
      Rejected method (.badName fault method.name)
  | unhashable {name : QueryName} {typeName text : String}
      (parsed : QueryName.parse method.name = .ok name)
      (changeable : method.entity = .changeable typeName text) :
      Rejected method (.unhashable typeName)
  | untyped {name : QueryName} (parsed : QueryName.parse method.name = .ok name)
      (noModel : ∀ model, method.entity ≠ .model model)
      (hashable : ∀ typeName text, method.entity ≠ .changeable typeName text) :
      Rejected method (.notAModel method.entity.name)
  | refused {name : QueryName} {model : Model} {failure : Failure}
      (parsed : QueryName.parse method.name = .ok name) (typed : method.entity = .model model)
      (refused : name.Refused method.name failure) : Rejected method failure

section Conditions

variable {method : String} {clauses : List Clause}

/-- One clause with its condition. -/
private def settle (method : String) (clause : Clause) : Except Failure (Clause × Condition) :=
  match clause.operator.condition? with
  | none => .error (.operator method clause.property clause.operator)
  | some condition => .ok (clause, condition)

private theorem settle_eq_ok {clause : Clause} {pair : Clause × Condition} :
    settle method clause = .ok pair ↔
      pair.1 = clause ∧ clause.operator.condition? = some pair.2 := by
  obtain ⟨other, condition⟩ := pair
  unfold settle
  cases clause.operator.condition? <;> simp [eq_comm]

private theorem settle_eq_error {clause : Clause} {failure : Failure} :
    settle method clause = .error failure ↔
      ¬ clause.operator.Supported ∧
        failure = .operator method clause.property clause.operator := by
  rw [← Operator.condition?_eq_none]
  unfold settle
  cases clause.operator.condition? <;> simp [eq_comm]

private theorem exists_settle {clause : Clause} :
    (∃ pair, settle method clause = .ok pair) ↔ clause.operator.Supported := by
  rw [← not_iff_not, ← Operator.condition?_eq_none]
  unfold settle
  cases clause.operator.condition? <;> simp

private theorem conditions_eq_mapM : conditions method clauses = clauses.mapM (settle method) := by
  induction clauses with
  | nil => rfl
  | cons clause rest ih =>
      rw [conditions, List.mapM_cons, ih, settle]
      cases clause.operator.condition? with
      | none => rfl
      | some condition => rfl

theorem conditions_eq_ok {pairs : List (Clause × Condition)} :
    conditions method clauses = .ok pairs ↔
      pairs.map Prod.fst = clauses ∧ ∀ pair ∈ pairs, pair.1.operator.condition? = some pair.2 := by
  rw [conditions_eq_mapM, mapM_eq_ok]
  simp only [settle_eq_ok]
  constructor
  · intro settled
    induction settled with
    | nil => simp
    | cons here rest ih =>
        obtain ⟨rfl, isCondition⟩ := here
        exact ⟨by rw [List.map_cons, ih.1], List.forall_mem_cons.mpr ⟨isCondition, ih.2⟩⟩
  · rintro ⟨rfl, settled⟩
    rw [List.forall₂_map_left_iff, List.forall₂_same]
    intro pair member
    exact ⟨rfl, settled pair member⟩

theorem conditions_eq_error {failure : Failure} :
    conditions method clauses = .error failure ↔
      ∃ front clause back, clauses = front ++ clause :: back ∧
        (∀ other ∈ front, other.operator.Supported) ∧ ¬ clause.operator.Supported ∧
        failure = .operator method clause.property clause.operator := by
  rw [conditions_eq_mapM, mapM_eq_error]
  simp only [exists_settle, settle_eq_error]

theorem exists_conditions :
    (∃ pairs, conditions method clauses = .ok pairs) ↔
      ∀ clause ∈ clauses, clause.operator.Supported := by
  simp only [conditions_eq_mapM, mapM_eq_ok, exists_forall₂, exists_settle]

/-- The conditions of the clauses of a name that a store can answer. -/
private def accept (method : String) (name : QueryName) :
    Except Failure (List (Clause × Condition)) :=
  if name.verb.isDelete then .error (.deleteQuery method)
  else if name.distinct then .error (.distinctQuery method)
  else if 1 < name.groups.length then .error (.disjunctiveQuery method)
  else conditions method name.clauses

variable {name : QueryName}

private theorem isDelete_iff {verb : Verb} :
    verb.isDelete = true ↔ verb ∈ [Verb.delete, Verb.remove] := by
  cases verb <;> decide

private theorem accept_of_answerable (answerable : name.Answerable) :
    accept method name = conditions method name.clauses := by
  unfold accept
  rw [if_neg (mt isDelete_iff.mp answerable.keeping), if_neg (by simp [answerable.repeating]),
    if_neg (Nat.not_lt.mpr answerable.conjunctive)]

private theorem accept_of_refused {failure : Failure} (refused : name.Refused method failure) :
    accept method name = .error failure := by
  unfold accept
  cases refused with
  | deletes deletes => rw [if_pos (isDelete_iff.mpr deletes)]
  | distinct keeping distinct => rw [if_neg (mt isDelete_iff.mp keeping), if_pos distinct]
  | disjunctive keeping repeating several =>
      rw [if_neg (mt isDelete_iff.mp keeping), if_neg (by simp [repeating]), if_pos several]
  | unsupported keeping repeating conjunctive clauses before unsupported =>
      rw [if_neg (mt isDelete_iff.mp keeping), if_neg (by simp [repeating]),
        if_neg (Nat.not_lt.mpr conjunctive)]
      exact conditions_eq_error.mpr ⟨_, _, _, clauses, before, unsupported, rfl⟩

private theorem answerable_or_refused (method : String) (name : QueryName) :
    name.Answerable ∨ ∃ failure, name.Refused method failure := by
  by_cases deletes : name.verb ∈ [Verb.delete, Verb.remove]
  · exact .inr ⟨_, .deletes deletes⟩
  cases distinct : name.distinct with
  | true => exact .inr ⟨_, .distinct deletes distinct⟩
  | false =>
      by_cases several : 1 < name.groups.length
      · exact .inr ⟨_, .disjunctive deletes distinct several⟩
      have conjunctive := Nat.le_of_not_lt several
      cases settled : conditions method name.clauses with
      | error failure =>
          obtain ⟨front, clause, back, clauses, before, unsupported, rfl⟩ :=
            conditions_eq_error.mp settled
          exact .inr ⟨_, .unsupported deletes distinct conjunctive clauses before unsupported⟩
      | ok pairs =>
          exact .inl ⟨deletes, distinct, conjunctive, exists_conditions.mp ⟨pairs, settled⟩⟩

private theorem accept_eq_ok {pairs : List (Clause × Condition)} :
    accept method name = .ok pairs ↔
      name.Answerable ∧ conditions method name.clauses = .ok pairs := by
  constructor
  · intro admitted
    rcases answerable_or_refused method name with answerable | ⟨failure, refused⟩
    · rw [accept_of_answerable answerable] at admitted
      exact ⟨answerable, admitted⟩
    · rw [accept_of_refused refused] at admitted
      exact nomatch admitted
  · rintro ⟨answerable, settled⟩
    rw [accept_of_answerable answerable, settled]

private theorem accept_eq_error {failure : Failure} :
    accept method name = .error failure ↔ name.Refused method failure := by
  constructor
  · intro failed
    rcases answerable_or_refused method name with answerable | ⟨other, refused⟩
    · obtain ⟨pairs, settled⟩ := exists_conditions.mpr answerable.supported
      rw [accept_eq_ok.mpr ⟨answerable, settled⟩] at failed
      exact nomatch failed
    · obtain rfl := Except.error.inj ((accept_of_refused refused).symm.trans failed)
      exact refused
  · exact accept_of_refused

end Conditions

variable {method : QueryMethod} {query : CompiledQuery} {failure : Failure}

private theorem compile_eq : method.compile =
    ((QueryName.parse method.name).mapError fun fault => .badName fault method.name) >>= fun name =>
      method.entity.toModel >>= fun model =>
        accept method.name name >>= fun pairs =>
          .ok ⟨method.name, model, method.projection, name, pairs⟩ := by
  unfold compile
  congr
  funext name
  congr
  funext model
  unfold accept
  split_ifs <;> rfl

private theorem toModel_eq_ok {reference : TypeReference} {model : Model} :
    reference.toModel = .ok model ↔ reference = .model model := by
  cases reference <;> simp [TypeReference.toModel]

private theorem toModel_eq_error {reference : TypeReference} :
    reference.toModel = .error failure ↔
      (∃ typeName text, reference = .changeable typeName text ∧ failure = .unhashable typeName) ∨
        (∀ model, reference ≠ .model model) ∧
          (∀ typeName text, reference ≠ .changeable typeName text) ∧
          failure = .notAModel reference.name := by
  cases reference <;> simp [TypeReference.toModel, eq_comm]

theorem compile_eq_ok_iff :
    method.compile = .ok query ↔
      method.Compiles query.name query.model ∧ query.method = method.name ∧
        query.projection = method.projection ∧ query.clauses.map Prod.fst = query.name.clauses ∧
        ∀ pair ∈ query.clauses, pair.1.operator.condition? = some pair.2 := by
  rw [compile_eq]
  constructor
  · intro compiled
    obtain ⟨name, parsed, compiled⟩ := bind_eq_ok.mp compiled
    obtain ⟨model, typed, compiled⟩ := bind_eq_ok.mp compiled
    obtain ⟨pairs, admitted, same⟩ := bind_eq_ok.mp compiled
    obtain rfl := Except.ok.inj same
    obtain ⟨answerable, settled⟩ := accept_eq_ok.mp admitted
    exact ⟨⟨mapError_eq_ok.mp parsed, toModel_eq_ok.mp typed, answerable⟩, rfl, rfl,
      conditions_eq_ok.mp settled⟩
  · obtain ⟨text, model, projection, name, pairs⟩ := query
    rintro ⟨⟨parsed, typed, answerable⟩, rfl, rfl, settled⟩
    refine bind_eq_ok.mpr ⟨name, mapError_eq_ok.mpr parsed, ?_⟩
    refine bind_eq_ok.mpr ⟨model, toModel_eq_ok.mpr typed, ?_⟩
    exact bind_eq_ok.mpr ⟨pairs, accept_eq_ok.mpr ⟨answerable, conditions_eq_ok.mpr settled⟩, rfl⟩

/-- A method that is not compiled is rejected for the first condition that it does not meet. -/
theorem compile_eq_error : method.compile = .error failure ↔ method.Rejected failure := by
  rw [compile_eq]
  constructor
  · intro failed
    rcases bind_eq_error.mp failed with failed | ⟨name, parsed, failed⟩
    · obtain ⟨fault, unreadable, rfl⟩ := mapError_eq_error.mp failed
      exact .unreadable unreadable
    · rw [mapError_eq_ok] at parsed
      rcases bind_eq_error.mp failed with failed | ⟨model, typed, failed⟩
      · rcases toModel_eq_error.mp failed with ⟨_, _, changeable, rfl⟩ | ⟨noModel, hashable, rfl⟩
        · exact .unhashable parsed changeable
        · exact .untyped parsed noModel hashable
      · rcases bind_eq_error.mp failed with failed | ⟨pairs, -, contra⟩
        · exact .refused parsed (toModel_eq_ok.mp typed) (accept_eq_error.mp failed)
        · exact nomatch contra
  · intro rejected
    cases rejected with
    | unreadable failed => exact bind_eq_error.mpr (.inl (mapError_eq_error.mpr ⟨_, failed, rfl⟩))
    | unhashable parsed changeable =>
        refine bind_eq_error.mpr (.inr ⟨_, mapError_eq_ok.mpr parsed, ?_⟩)
        exact bind_eq_error.mpr (.inl (toModel_eq_error.mpr (.inl ⟨_, _, changeable, rfl⟩)))
    | untyped parsed noModel hashable =>
        refine bind_eq_error.mpr (.inr ⟨_, mapError_eq_ok.mpr parsed, ?_⟩)
        exact bind_eq_error.mpr (.inl (toModel_eq_error.mpr (.inr ⟨noModel, hashable, rfl⟩)))
    | refused parsed typed refused =>
        refine bind_eq_error.mpr (.inr ⟨_, mapError_eq_ok.mpr parsed, ?_⟩)
        refine bind_eq_error.mpr (.inr ⟨_, toModel_eq_ok.mpr typed, ?_⟩)
        exact bind_eq_error.mpr (.inl (accept_eq_error.mpr refused))

theorem compileLogged_result (settings : Settings) (method : QueryMethod) :
    (method.compileLogged settings).result = method.compile := by
  unfold compileLogged
  cases method.compile <;> simp [Except.bind]

theorem exists_compile :
    (∃ query, method.compile = .ok query) ↔ ∃ name model, method.Compiles name model := by
  constructor
  · rintro ⟨query, compiled⟩
    exact ⟨query.name, query.model, (compile_eq_ok_iff.mp compiled).1⟩
  · rintro ⟨name, model, compiles⟩
    have settles : ∃ pairs, conditions method.name name.clauses = .ok pairs :=
      exists_conditions.mpr compiles.answerable.supported
    obtain ⟨pairs, settled⟩ := settles
    exact ⟨⟨method.name, model, method.projection, name, pairs⟩,
      compile_eq_ok_iff.mpr ⟨compiles, rfl, rfl, conditions_eq_ok.mp settled⟩⟩

end QueryMethod

end DerivedQuery
