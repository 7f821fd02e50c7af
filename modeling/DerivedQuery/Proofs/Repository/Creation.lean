import DerivedQuery.Proofs.Method.Binding
import DerivedQuery.Proofs.QueryName.Grammar
import DerivedQuery.Proofs.Repository.Annotation
import DerivedQuery.Proofs.Repository.Members

/-!
# Creating repositories

A repository is created when an instance can be made and each of its query methods can be bound
alone. It then has the queries that these methods give alone; otherwise the first failing method in
the order of the names decides. The order in which stubs were declared does not count, and no query
is sent.
-/

set_option autoImplicit false

namespace DerivedQuery

/-! ## One stub -/

/-- The name is public and starts with a verb. -/
def QueryName.Opens (name : String) : Prop :=
  name.toList.head? ≠ some '_' ∧
    ∃ word rest, ∃ verb : Verb, splitWords name = word :: rest ∧ word.key = verb.key

theorem QueryName.isQueryName_iff {name : String} : isQueryName name = true ↔ Opens name := by
  unfold isQueryName Opens
  split
  · rename_i text
    simp [text]
  · rename_i split _
    simp [split]
  · rename_i first rest split noMark
    have visible : name.toList.head? ≠ some '_' := by
      cases listed : name.toList with
      | nil => simp
      | cons c cs =>
          rintro same
          exact noMark cs (by rw [listed, Option.some.inj same])
    rw [Option.isSome_iff_exists, split]
    constructor
    · rintro ⟨verb, isVerb⟩
      exact ⟨visible, first, rest, verb, rfl, Verb.ofKey?_eq_some.mp isVerb⟩
    · rintro ⟨-, word, others, verb, same, key⟩
      obtain ⟨rfl, -⟩ := List.cons.inj same
      exact ⟨verb, Verb.ofKey?_eq_some.mpr key⟩

namespace Stub

/-- The annotations of the stub can be resolved, and its name with what they say is compiled to the
query. -/
def Compiles (modules : Modules) (entity : TypeReference) (stub : Stub) (query : CompiledQuery) :
    Prop :=
  ∃ resolved after, stub.resolve modules = .ok (resolved, after) ∧
    (stub.queryMethod entity resolved).compile = .ok query

/-- The stub is compiled to the query, and the instance takes it. -/
structure Binds (rules : InstanceRules) (modules : Modules) (entity : TypeReference) (stub : Stub)
    (query : CompiledQuery) : Prop where
  compiles : stub.Compiles modules entity query
  kept : rules.keep stub.name = .ok ()
  attached : rules.attach stub.name = .ok ()

/-- Why the stub cannot be bound. -/
inductive Fails (rules : InstanceRules) (modules : Modules) (entity : TypeReference) (stub : Stub) :
    Failure → Prop
  | unresolved {failure : Failure} (unknown : stub.resolve modules = .error failure) :
      Fails rules modules entity stub failure
  | name {resolved : List (String × Meaning)} {after : Modules} {failure : Failure}
      (resolves : stub.resolve modules = .ok (resolved, after))
      (failed : (stub.queryMethod entity resolved).compile = .error failure) :
      Fails rules modules entity stub failure
  | keep {query : CompiledQuery} {failure : Failure} (compiles : stub.Compiles modules entity query)
      (refused : rules.keep stub.name = .error failure) : Fails rules modules entity stub failure
  | attach {query : CompiledQuery} {failure : Failure}
      (compiles : stub.Compiles modules entity query) (kept : rules.keep stub.name = .ok ())
      (refused : rules.attach stub.name = .error failure) : Fails rules modules entity stub failure

/-- The annotations of the stub set no names of the modules. -/
def LeavesNames (modules : Modules) (stub : Stub) : Prop :=
  ∀ resolved after, stub.resolve modules = .ok (resolved, after) → after = modules

variable {settings : Settings} {rules : InstanceRules} {modules : Modules}
  {entity : TypeReference} {stub : Stub}

theorem resolve_of_unannotated (unannotated : stub.annotations = []) :
    stub.resolve modules = .ok ([], modules) := by
  unfold resolve
  rw [unannotated]
  refine congrArg (fun after : Modules => Except.ok ([], after)) (funext fun home => ?_)
  exact ite_eq_right_iff.mpr fun same => by rw [same]

theorem leavesNames_of_unannotated (unannotated : stub.annotations = []) :
    stub.LeavesNames modules := by
  intro resolved after resolves
  rw [resolve_of_unannotated unannotated] at resolves
  exact (Prod.mk.inj (Except.ok.inj resolves)).2.symm

/-- A stub whose result is said to be a list of a model compiles as its name does for entities of
this model. -/
theorem compiles_iff_of_spellsListOf {described : Model} {meaning : Meaning} {query : CompiledQuery}
    (annotated : stub.annotations = [("return", meaning)])
    (spells : Annotation.SpellsListOf (modules stub.home) described meaning) :
    stub.Compiles modules entity query ↔
      (QueryMethod.declare stub.name entity (some (.model described))).compile = .ok query := by
  have resolves := resolve_of_spellsListOf annotated spells
  rw [← queryMethod_listOf entity]
  constructor
  · rintro ⟨resolved, after, same, compiled⟩
    obtain ⟨rfl, rfl⟩ := Prod.mk.inj (Except.ok.inj (resolves.symm.trans same))
    exact compiled
  · intro compiled
    exact ⟨_, modules, resolves, compiled⟩

/-- A stub without annotations compiles when a store can answer what its name asks for. -/
theorem exists_compiles {model : Model} {name : QueryName} (unannotated : stub.annotations = [])
    (parsed : QueryName.parse stub.name = .ok name) (answerable : name.Answerable) :
    ∃ query, stub.Compiles modules (.model model) query := by
  have compiles : (stub.queryMethod (.model model) []).Compiles name model :=
    ⟨parsed, rfl, answerable⟩
  obtain ⟨query, compiled⟩ := QueryMethod.exists_compile.mpr ⟨name, model, compiles⟩
  exact ⟨query, [], modules, resolve_of_unannotated unannotated, compiled⟩

private theorem bind_result : (stub.bind settings rules modules entity).result =
    stub.resolve modules >>= fun resolved =>
      (stub.queryMethod entity resolved.1).compile >>= fun query =>
        rules.keep stub.name >>= fun _ => rules.attach stub.name >>= fun _ =>
          .ok (⟨stub.name, stub.signature, query⟩, resolved.2) := by
  simp only [bind, Logged.result_bind, Logged.result_liftM, QueryMethod.compileLogged_result,
    Logged.result_pure]
  rfl

private theorem bind_result_eq_ok {bound : BoundMethod} {after : Modules} :
    (stub.bind settings rules modules entity).result = .ok (bound, after) ↔
      ∃ resolved, stub.resolve modules = .ok (resolved, after) ∧
        (stub.queryMethod entity resolved).compile = .ok bound.query ∧
        rules.keep stub.name = .ok () ∧ rules.attach stub.name = .ok () ∧
        bound.name = stub.name ∧ bound.signature = stub.signature := by
  rw [bind_result]
  constructor
  · intro accepted
    obtain ⟨⟨resolved, left⟩, resolves, accepted⟩ := bind_eq_ok.mp accepted
    obtain ⟨query, compiled, accepted⟩ := bind_eq_ok.mp accepted
    obtain ⟨⟨⟩, kept, accepted⟩ := bind_eq_ok.mp accepted
    obtain ⟨⟨⟩, attached, same⟩ := bind_eq_ok.mp accepted
    obtain ⟨rfl, rfl⟩ := Prod.mk.inj (Except.ok.inj same)
    exact ⟨resolved, resolves, compiled, kept, attached, rfl, rfl⟩
  · obtain ⟨name, signature, query⟩ := bound
    rintro ⟨resolved, resolves, compiled, kept, attached, rfl, rfl⟩
    refine bind_eq_ok.mpr ⟨(resolved, after), resolves, bind_eq_ok.mpr ⟨query, compiled, ?_⟩⟩
    exact bind_eq_ok.mpr ⟨(), kept, bind_eq_ok.mpr ⟨(), attached, rfl⟩⟩

/-- The method that a stub gives alone. -/
private def alone (settings : Settings) (rules : InstanceRules) (modules : Modules)
    (entity : TypeReference) (stub : Stub) : Except Failure BoundMethod :=
  (stub.bind settings rules modules entity).result.map Prod.fst

private theorem alone_eq_ok {bound : BoundMethod} :
    stub.alone settings rules modules entity = .ok bound ↔
      bound.name = stub.name ∧ bound.signature = stub.signature ∧
        stub.Binds rules modules entity bound.query := by
  simp only [alone, map_eq_ok, Prod.exists, bind_result_eq_ok]
  constructor
  · rintro ⟨other, after, ⟨resolved, resolves, compiled, kept, attached, name, signature⟩, rfl⟩
    exact ⟨name, signature, ⟨resolved, after, resolves, compiled⟩, kept, attached⟩
  · rintro ⟨name, signature, ⟨resolved, after, resolves, compiled⟩, kept, attached⟩
    exact ⟨bound, after, ⟨resolved, resolves, compiled, kept, attached, name, signature⟩, rfl⟩

private theorem exists_alone :
    (∃ bound, stub.alone settings rules modules entity = .ok bound) ↔
      ∃ query, stub.Binds rules modules entity query := by
  simp only [alone_eq_ok]
  constructor
  · rintro ⟨bound, -, -, binds⟩
    exact ⟨bound.query, binds⟩
  · rintro ⟨query, binds⟩
    exact ⟨⟨stub.name, stub.signature, query⟩, rfl, rfl, binds⟩

/-- Stubs that leave the names of the modules as they are are bound as each is alone. -/
private theorem bindAll_result {stubs : List Stub}
    (steady : ∀ stub ∈ stubs, stub.LeavesNames modules) :
    (bindAll settings rules modules entity stubs).result =
      stubs.mapM (alone settings rules modules entity) := by
  induction stubs with
  | nil => rfl
  | cons stub stubs ih =>
      obtain ⟨here, later⟩ := List.forall_mem_cons.mp steady
      rw [bindAll, List.mapM_cons, ← ih later, alone]
      simp only [Logged.result_bind]
      cases result : (stub.bind settings rules modules entity).result with
      | error failure => rfl
      | ok bound =>
          obtain ⟨resolved, resolves, -⟩ := bind_result_eq_ok.mp result
          obtain rfl : bound.2 = modules := here resolved bound.2 resolves
          rfl

/-- Every bound method is that of its stub, compiled among the names that the stubs before it left.
-/
theorem forall₂_bindAll {stubs : List Stub} {methods : List BoundMethod}
    (all : (bindAll settings rules modules entity stubs).result = .ok methods) :
    List.Forall₂ (fun stub bound => bound.name = stub.name ∧ bound.signature = stub.signature ∧
      ∃ names, ((∀ other ∈ stubs, other.LeavesNames modules) → names = modules) ∧
        stub.Compiles names entity bound.query) stubs methods := by
  induction stubs generalizing modules methods with
  | nil =>
      obtain rfl := Except.ok.inj all
      exact .nil
  | cons stub stubs ih =>
      rw [bindAll, Logged.result_bind] at all
      obtain ⟨⟨bound, after⟩, here, all⟩ := bind_eq_ok.mp all
      rw [Logged.result_bind] at all
      obtain ⟨others, later, same⟩ := bind_eq_ok.mp all
      obtain rfl := Except.ok.inj same
      obtain ⟨resolved, resolves, compiled, -, -, name, signature⟩ := bind_result_eq_ok.mp here
      refine .cons ⟨name, signature, modules, fun _ => rfl, resolved, after, resolves, compiled⟩ ?_
      refine (ih later).imp fun other found => ?_
      rintro ⟨otherName, otherSignature, names, unchanged, compiles⟩
      refine ⟨otherName, otherSignature, names, fun steady => ?_, compiles⟩
      obtain ⟨leaves, steadyLater⟩ := List.forall_mem_cons.mp steady
      obtain rfl := leaves resolved after resolves
      exact unchanged steadyLater

end Stub

/-! ## The stubs of a class -/

/-- The same declaration with the stubs in another order. No two stubs have one name, so none takes
the place of another one. -/
structure ClassDeclaration.Reordered (a b : ClassDeclaration) : Prop where
  name : a.name = b.name
  entity : a.entity = b.entity
  stubs : a.stubs.Perm b.stubs
  apart : (a.stubs.map Stub.name).Nodup

theorem ClassDeclaration.Reordered.symm {a b : ClassDeclaration} (reordered : a.Reordered b) :
    b.Reordered a :=
  ⟨reordered.name.symm, reordered.entity.symm, reordered.stubs.symm,
    ((reordered.stubs.map Stub.name).nodup_iff).mp reordered.apart⟩

namespace RepositoryClass

/-- The stub is a query method of the class: its name is public and starts with a verb, and it is
not called on the class itself. -/
structure Queries (declared : RepositoryClass) (stub : Stub) : Prop where
  declares : Declares declared.declarations stub
  notOfClass : stub.kind ≠ .classMethod
  opens : QueryName.Opens stub.name

/-- The same class with the stubs of each declaration in another order. -/
structure Reordered (a b : RepositoryClass) : Prop where
  declarations : List.Forall₂ ClassDeclaration.Reordered a.declarations b.declarations
  rules : a.rules = b.rules

variable {declared other : RepositoryClass}

theorem mem_queryStubs_iff {stub : Stub} : stub ∈ declared.queryStubs ↔ declared.Queries stub := by
  rw [queryStubs, List.mem_filter, mem_members_iff, Bool.and_eq_true, QueryName.isQueryName_iff,
    decide_eq_true_iff]
  exact ⟨fun ⟨declares, notOfClass, opens⟩ => ⟨declares, notOfClass, opens⟩,
    fun ⟨declares, notOfClass, opens⟩ => ⟨declares, notOfClass, opens⟩⟩

theorem queryStubs_pairwise (declared : RepositoryClass) :
    declared.queryStubs.Pairwise fun a b => a.name < b.name :=
  (members_pairwise declared).filter _

/-- No two query methods of a class have one name. -/
theorem Queries.unique {stub again : Stub} (queries : declared.Queries stub)
    (queriesAgain : declared.Queries again) (same : stub.name = again.name) : stub = again := by
  have apart : (declared.queryStubs.map Stub.name).Nodup :=
    List.pairwise_map.mpr ((queryStubs_pairwise declared).imp fun less => ne_of_lt less)
  exact List.inj_on_of_nodup_map apart (mem_queryStubs_iff.mpr queries)
    (mem_queryStubs_iff.mpr queriesAgain) same

section Reordered

variable {a b : List ClassDeclaration}

end Reordered

end RepositoryClass

/-! ## Whole repositories -/

namespace Repository

variable {settings : Settings} {modules : Modules} {declared other : RepositoryClass}
  {entity : TypeReference}

private theorem create_result (typed : declared.entity? = some entity) :
    (create settings modules declared).result =
      declared.rules.make >>= fun _ =>
        (Stub.bindAll settings declared.rules modules entity declared.queryStubs).result >>=
          fun methods => (declared.rules.count methods.length).map fun _ =>
            ⟨declared.own.name, entity, methods, declared.members.filter fun stub =>
              !(methods.map BoundMethod.name).contains stub.name⟩ := by
  rw [create, typed]
  simp only [Logged.result_bind, Logged.result_liftM, Logged.result_write, Logged.result_pure]
  cases declared.rules.make with
  | error failure => rfl
  | ok made =>
      cases (Stub.bindAll settings declared.rules modules entity declared.queryStubs).result with
      | error failure => rfl
      | ok methods =>
          change Except.bind (declared.rules.count methods.length) _ =
            (declared.rules.count methods.length).map _
          cases declared.rules.count methods.length <;> rfl

private theorem exists_methods_iff :
    (∃ methods, declared.queryStubs.mapM (Stub.alone settings declared.rules modules entity) =
        .ok methods) ↔
      ∀ stub, declared.Queries stub →
        ∃ query, stub.Binds declared.rules modules entity query := by
  simp only [mapM_eq_ok, exists_forall₂, RepositoryClass.mem_queryStubs_iff, Stub.exists_alone]

section

variable (steady : ∀ stub, declared.Queries stub → stub.LeavesNames modules)

include steady

private theorem bindAll_result :
    (Stub.bindAll settings declared.rules modules entity declared.queryStubs).result =
      declared.queryStubs.mapM (Stub.alone settings declared.rules modules entity) :=
  Stub.bindAll_result fun stub member =>
    steady stub (RepositoryClass.mem_queryStubs_iff.mp member)

private theorem create_result_eq_ok (typed : declared.entity? = some entity)
    {repository : Repository}
    (created : (create settings modules declared).result = .ok repository) :
    repository.entity = entity ∧ declared.rules.make = .ok () ∧
      declared.queryStubs.mapM (Stub.alone settings declared.rules modules entity) =
        .ok repository.methods ∧
      ∃ count, declared.rules.count repository.methods.length = .ok count := by
  rw [create_result typed, bindAll_result steady] at created
  obtain ⟨⟨⟩, made, created⟩ := bind_eq_ok.mp created
  obtain ⟨methods, all, created⟩ := bind_eq_ok.mp created
  obtain ⟨count, counted, rfl⟩ := map_eq_ok.mp created
  exact ⟨rfl, made, all, count, counted⟩

theorem exists_create (typed : declared.entity? = some entity) :
    (∃ repository, (create settings modules declared).result = .ok repository) ↔
      declared.rules.make = .ok () ∧
      (∀ stub, declared.Queries stub →
        ∃ query, stub.Binds declared.rules modules entity query) ∧
      ∃ count, declared.rules.count declared.queryStubs.length = .ok count := by
  rw [← @exists_methods_iff settings]
  constructor
  · rintro ⟨repository, created⟩
    obtain ⟨-, made, all, counted⟩ := create_result_eq_ok steady typed created
    exact ⟨made, ⟨_, all⟩, (mapM_eq_ok.mp all).length_eq ▸ counted⟩
  · rintro ⟨made, ⟨methods, all⟩, count, counted⟩
    rw [create_result typed, bindAll_result steady]
    rw [(mapM_eq_ok.mp all).length_eq] at counted
    exact ⟨_, bind_eq_ok.mpr ⟨(), made,
      bind_eq_ok.mpr ⟨methods, all, map_eq_ok.mpr ⟨count, counted, rfl⟩⟩⟩⟩

end

/-- A repository has the entity type of its class and what binding the stubs of the class gives. -/
theorem bindAll_of_create {repository : Repository}
    (created : (create settings modules declared).result = .ok repository) :
    declared.entity? = some repository.entity ∧
      (Stub.bindAll settings declared.rules modules repository.entity declared.queryStubs).result =
        .ok repository.methods := by
  cases typed : declared.entity? with
  | none =>
      rw [create, typed] at created
      exact nomatch created
  | some entity =>
      rw [create_result typed] at created
      obtain ⟨⟨⟩, -, created⟩ := bind_eq_ok.mp created
      obtain ⟨methods, bound, created⟩ := bind_eq_ok.mp created
      obtain ⟨count, -, rfl⟩ := map_eq_ok.mp created
      exact ⟨rfl, bound⟩

section ShelfArchive

open Annotation

end ShelfArchive

end Repository

end DerivedQuery
