import DerivedQuery.Proofs.Method.Assembly
import DerivedQuery.Proofs.Method.Reordering
import DerivedQuery.Proofs.Method.Variation

/-!
# Failures of calls

A call fails where its query cannot be built, and from then on only in ways that have nothing to do
with the number of its arguments: data cannot be wrapped or loaded, something lacks what a
projection asks for, or the backend fails. That there are too few arguments is therefore reported
exactly when there are fewer than clauses that take one.
-/

set_option autoImplicit false

namespace DerivedQuery

/-- Why a built query is not answered, or its results are not shaped. -/
inductive Failure.OfAnswer : Failure → Prop
  | wrapping {failure : Failure} (unwrapped : failure.OfWrapping) : OfAnswer failure
  | data (faults : List (String × DataFault)) : OfAnswer (.invalidData faults)
  | backend (message : String) : OfAnswer (.backend message)
  | attribute (owner : AttributeOwner) (wanted : String) : OfAnswer (.noAttribute owner wanted)
  | keys (typeName : String) : OfAnswer (.notCallable typeName)
  | elements (typeName : String) : OfAnswer (.notIterable typeName)
  | key (typeName : String) : OfAnswer (.unhashable typeName)
  | pair (position : Nat) : OfAnswer (.noPair position)
  | pairLength (position length : Nat) : OfAnswer (.pairLength position length)

theorem Failure.OfAnswer.failureClass {failure : Failure} (failed : failure.OfAnswer) :
    failure.failureClass ∈ [FailureClass.unsupportedValueType, .overflow, .validation, .runtime,
      .attribute, .type, .value] := by
  cases failed with
  | wrapping unwrapped => cases unwrapped <;> simp [Failure.failureClass]
  | _ => simp [Failure.failureClass]

/-- An operation fails in no other way than in answering. -/
def Answering {α : Type} (action : Except Failure α) : Prop :=
  ∀ failure, action = .error failure → failure.OfAnswer

namespace Answering

variable {α β : Type}

theorem ok (value : α) : Answering (.ok value) := nofun

theorem error {failure : Failure} (fails : failure.OfAnswer) :
    Answering (.error failure : Except Failure α) := by
  rintro _ ⟨⟩
  exact fails

theorem bind {action : Except Failure α} {next : α → Except Failure β} (first : Answering action)
    (later : ∀ value, Answering (next value)) : Answering (action >>= next) := by
  intro failure failed
  rcases bind_eq_error.mp failed with failed | ⟨value, -, failed⟩
  · exact first failure failed
  · exact later value failure failed

theorem map {action : Except Failure α} (f : α → β) (first : Answering action) :
    Answering (action.map f) :=
  fun failure failed => first failure (map_eq_error.mp failed)

theorem mapM {f : α → Except Failure β} (each : ∀ item, Answering (f item)) (items : List α) :
    Answering (items.mapM f) := by
  intro failure failed
  obtain ⟨-, item, -, -, -, fails⟩ := mapM_eq_error.mp failed
  exact each item failure fails

end Answering

/-! ## Data and records -/

theorem Datum.answering_wrap (datum : Datum) : Answering datum.wrap :=
  fun _ failed => .wrapping (datum.ofWrapping failed)

theorem Model.answering_entity (model : Model) (reading : Reading) :
    Answering (model.entity reading) := by
  unfold entity
  split
  · exact .ok _
  · exact .error (.data _)

namespace Filter

theorem answering_propertyMatches (field : String) (comparison : Comparison) (value : Value)
    (record : Record) : Answering (propertyMatches field comparison value record) := by
  unfold propertyMatches
  split
  · exact .ok false
  · exact (Datum.answering_wrap _).map _

mutual

theorem answering_matches? (record : Record) : (filter : Filter) →
    Answering (filter.matches? record)
  | .property field comparison value => by
      rw [matches?]
      exact answering_propertyMatches field comparison value record
  | .composite _ filters => by
      rw [matches?]
      exact answering_matchesAll? record filters

theorem answering_matchesAll? (record : Record) : (filters : List Filter) →
    Answering (matchesAll? record filters)
  | [] => by
      rw [matchesAll?]
      exact .ok true
  | filter :: others => by
      rw [matchesAll?]
      refine (answering_matches? record filter).bind fun met => ?_
      cases met with
      | false => exact .ok false
      | true => exact answering_matchesAll? record others

end

end Filter

namespace Store

theorem answering_filterRecords (filter : Filter) (records : List Record) :
    Answering (filterRecords filter records) := by
  induction records with
  | nil => exact .ok []
  | cons record rest ih =>
      exact (filter.answering_matches? record).bind fun met => ih.bind fun others => .ok _

theorem answering_rankRecords (field : String) (records : List Record) :
    Answering (rankRecords field records) := by
  induction records with
  | nil => exact .ok []
  | cons record rest ih =>
      rw [rankRecords]
      split
      · exact ih
      · exact (Datum.answering_wrap _).bind fun value => ih.bind fun others => .ok _

theorem answering_sortByAll (orders : List FieldOrder) (records : List Record) :
    Answering (sortByAll orders records) := by
  induction orders with
  | nil => exact .ok records
  | cons order orders ih =>
      exact ih.bind fun sorted => (answering_rankRecords order.field sorted).bind fun _ => .ok _

theorem answering_select (store : Store) (query : StructuredQuery) :
    Answering (store.select query) := by
  have sorted (met : List Record) : Answering (sortByAll query.orders met >>= fun sorted =>
      .ok (cut query.limit sorted)) :=
    (answering_sortByAll query.orders met).bind fun sorted => .ok _
  unfold select
  cases query.filter with
  | none => exact sorted _
  | some filter => exact (answering_filterRecords filter _).bind sorted

end Store

theorem Backend.answering_answer (backend : Backend) (query : StructuredQuery) (model : Model) :
    Answering (backend.answer query model).result := by
  cases backend with
  | silent => exact .ok []
  | canned items => exact .ok _
  | failing message => exact .error (.backend message)
  | store records =>
      have loaded : Answering (records.answer query (.model model)).result := by
        rw [Store.answer_result]
        exact (records.answering_select query).bind fun found =>
          .mapM (fun record => model.answering_entity _) found
      simp only [answer, find, Logged.result_bind]
      exact loaded.bind fun entities => .ok _

/-! ## Results -/

theorem Entity.answering_readAttribute (entity : Entity) (name : String) :
    Answering (entity.readAttribute name) := by
  simp only [readAttribute]
  cases entity.attribute? name with
  | some found => exact .ok found
  | none => exact .error (.attribute _ name)

namespace Datum

theorem answering_readAttribute (datum : Datum) (name : String) :
    Answering (datum.readAttribute name) := by
  unfold readAttribute
  split
  · exact .ok _
  · exact .error (.attribute _ name)

theorem answering_elements (datum : Datum) : Answering datum.elements := by
  unfold elements
  split
  · exact .ok _
  · exact .error (.elements _)

theorem answering_addPairs (entries : List (Datum × Datum)) (position : Nat)
    (items : List Datum) : Answering (addPairs entries position items) := by
  induction items generalizing entries position with
  | nil => exact .ok entries
  | cons item rest ih =>
      rw [addPairs]
      split
      · exact .error (.pair position)
      · refine .bind (fun failure failed => ?_) fun added => ih added (position + 1)
        obtain ⟨typeName, -, rfl⟩ := mapError_eq_error.mp failed
        exact .key typeName
      · exact .error (.pairLength position _)

theorem answering_toDictionary (datum : Datum) : Answering datum.toDictionary := by
  unfold toDictionary
  split
  · exact .ok _
  · exact (answering_elements _).bind fun items => (answering_addPairs [] 0 items).map _

end Datum

theorem Projection.answering_apply (projection : Projection) (item : Item) :
    Answering (projection.apply item) := by
  cases projection with
  | model view =>
      cases item with
      | entity e =>
          simp only [apply, Item.toModel]
          split
          · exact .ok _
          · exact (view.answering_entity _).map _
      | datum d =>
          simp only [apply, Item.toModel]
          split
          · exact (view.answering_entity _).map _
          · exact .error (.data _)
  | property name =>
      cases item with
      | entity e => exact (e.answering_readAttribute name).map _
      | datum d => exact (d.answering_readAttribute name).map _
  | pairs =>
      cases item with
      | entity e => exact .ok _
      | datum d => exact d.answering_elements.map _
  | dictionary =>
      cases item with
      | entity e =>
          simp only [apply, Item.dictionary]
          split
          · exact .error (.keys _)
          · exact .ok _
      | datum d => exact d.answering_toDictionary.map _

namespace CompiledQuery

variable {method : QueryMethod} {query : CompiledQuery} {arguments : List Datum}
  {failure : Failure}

theorem answering_shaped (query : CompiledQuery) (items : List Item) :
    Answering (query.shaped items) := by
  unfold shaped
  split
  · exact .ok _
  · exact .ok _
  · split
    · exact .ok _
    · exact (Answering.mapM (Projection.answering_apply _) items).map _

theorem execute_result (settings : Settings) (backend : Backend) (query : CompiledQuery)
    (arguments : List Datum) :
    (query.execute settings backend arguments).result =
      query.build arguments >>= fun built =>
        (backend.answer built query.model).result >>= query.shaped := by
  rw [execute, Logged.result_bind, raw_result_bind]
  cases query.build arguments <;> rfl

/-- What fails after the query has been built is the answer. -/
theorem execute_eq_error {settings : Settings} {backend : Backend}
    (failed : (query.execute settings backend arguments).result = .error failure) :
    query.build arguments = .error failure ∨ failure.OfAnswer := by
  rw [execute_result] at failed
  rcases bind_eq_error.mp failed with failed | ⟨built, -, failed⟩
  · exact .inl failed
  · refine .inr ?_
    exact ((backend.answering_answer built query.model).bind query.answering_shaped) failure failed

/-- An argument that is missing for a clause is missing among those that all clauses take. -/
private theorem length_lt_of_missing {clauses : List Clause} {bound : BoundClause}
    (member : bound ∈ bindClauses clauses arguments) (takes : bound.clause.takesArgument = true)
    (missing : bound.argument = none) :
    arguments.length < clauses.countP Clause.takesArgument := by
  obtain ⟨i, inside, rfl⟩ := List.mem_mapIdx.mp member
  have short : arguments.length ≤ (clauses.take i).countP Clause.takesArgument :=
    List.getElem?_eq_none_iff.mp missing
  have split := congrArg (List.countP Clause.takesArgument) (List.take_append_drop i clauses)
  rw [List.drop_eq_getElem_cons inside, List.countP_append, List.countP_cons_of_pos takes] at split
  omega

private theorem argument_mem_of_mem {clauses : List Clause} {bound : BoundClause}
    (member : bound ∈ bindClauses clauses arguments) {argument : Datum}
    (given : bound.argument = some argument) : argument ∈ arguments := by
  obtain ⟨i, inside, rfl⟩ := List.mem_mapIdx.mp member
  exact List.mem_of_getElem? given

/-- Where every property is a field and every argument can be wrapped, all that can be missing is an
argument for a clause. -/
theorem build_tooFew_iff (compiled : method.compile = .ok query)
    (properties : ∀ clause ∈ query.name.clauses, query.model.HasField clause.property)
    (wraps : ∀ argument ∈ arguments, argument.Wraps) :
    (∃ failure, query.build arguments = .error failure ∧
        failure.failureClass = .tooFewArguments) ↔
      arguments.length < query.name.clauses.countP Clause.takesArgument := by
  have supported := (QueryMethod.compile_eq_ok_iff.mp compiled).1.answerable.supported
  constructor
  · rintro ⟨failure, failed, tooFew⟩
    cases (build_eq_error_iff compiled).mp failed with
    | clause clauses before fails =>
        cases fails with
        | unknown absent => exact nomatch tooFew
        | @exhausted clause present takes =>
            have member : ⟨clause, none⟩ ∈ bindClauses query.name.clauses arguments :=
              clauses ▸ List.mem_append_right _ (by simp)
            exact length_lt_of_missing member takes rfl
        | unwrapped present takes failed =>
            cases Datum.ofWrapping _ failed <;> exact nomatch tooFew
    | order gives orders before absent => exact nomatch tooFew
  · intro fewer
    -- Were all clauses to give filters, there would be an argument for each that takes one.
    have misses (gives : ∀ bound ∈ bindClauses query.name.clauses arguments,
        ∃ filter, bound.Gives query.model filter) : False := by
      have enough := ((BoundClause.exists_gives_iff supported).mp gives).2.1
      exact absurd fewer (Nat.not_lt.mpr ((countP_takesArgument_le _).trans enough))
    cases failed : query.build arguments with
    | ok built => exact (misses ((exists_build compiled).mp ⟨built, failed⟩).1).elim
    | error failure =>
        refine ⟨failure, rfl, ?_⟩
        cases (build_eq_error_iff compiled).mp failed with
        | @clause front back bound _ clauses before fails =>
            have member : bound ∈ bindClauses query.name.clauses arguments :=
              clauses ▸ List.mem_append_right _ (by simp)
            cases fails with
            | unknown absent =>
                exact absurd (properties _ (clause_mem_of_mem_bindClauses member)) absent
            | exhausted present takes => rfl
            | unwrapped present takes failed =>
                obtain ⟨value, wrapped⟩ := wraps _ (argument_mem_of_mem member rfl)
                exact nomatch wrapped.symm.trans failed
        | order gives orders before absent => exact (misses gives).elim

/-- A call reports too few arguments exactly when there are fewer than clauses that take one. -/
theorem execute_tooFew_iff (compiled : method.compile = .ok query)
    (properties : ∀ clause ∈ query.name.clauses, query.model.HasField clause.property)
    (wraps : ∀ argument ∈ arguments, argument.Wraps) (settings : Settings) (backend : Backend) :
    (∃ failure, (query.execute settings backend arguments).result = .error failure ∧
        failure.failureClass = .tooFewArguments) ↔
      arguments.length < query.name.clauses.countP Clause.takesArgument := by
  rw [← build_tooFew_iff compiled properties wraps]
  refine exists_congr fun failure => and_congr_left fun tooFew => ?_
  refine ⟨fun failed => ?_, fun failed => ?_⟩
  · refine (execute_eq_error failed).resolve_right fun answer => ?_
    have other := answer.failureClass
    rw [tooFew] at other
    exact absurd other (by decide)
  · rw [execute_result]
    exact bind_eq_error.mpr (.inl failed)

end CompiledQuery

end DerivedQuery
