import DerivedQuery.Proofs.Method.Answering
import DerivedQuery.Proofs.Repository.Creation
import DerivedQuery.Proofs.Repository.Signature

/-!
# Calls of repository methods

A call of a query method executes its query on the values of the first parameters, in the order of
the parameters and up to the first one that receives none. It does not matter how the values were
given, and no value reaches a clause of another parameter. A call that does not fit the signature
fails before anything is built or asked.
-/

set_option autoImplicit false

namespace DerivedQuery

namespace Stub

/-- All parameters besides the receiver may be given by position or by name. -/
structure Ordinary (stub : Stub) : Prop where
  kind : stub.kind = .method
  positional : ∀ p ∈ stub.parameters, p.kind = .positional
  apart : ("self" :: stub.parameters.map Parameter.name).Nodup

/-- What the parameters receive in a call. -/
def received (stub : Stub) (arguments : List Datum) (keywords : Keywords) : List (Option Datum) :=
  Signature.received (stub.parameters.map Parameter.name) arguments (Dictionary.ofEntries keywords)

/-- The call fits the signature, to which the receiver belongs. -/
def Accepts (stub : Stub) (arguments : List Datum) (keywords : Keywords) : Prop :=
  Signature.Accepts ("self" :: stub.parameters.map Parameter.name) (arguments.length + 1)
    ((Dictionary.ofEntries keywords).map Prod.fst)

/-- The first fault of a call that does not fit the signature. -/
def Rejects (stub : Stub) (arguments : List Datum) (keywords : Keywords) : CallFault → Prop :=
  Signature.Rejects ("self" :: stub.parameters.map Parameter.name) (arguments.length + 1)
    ((Dictionary.ofEntries keywords).map Prod.fst)

variable {stub : Stub} {arguments : List Datum} {keywords : Keywords}

private theorem Ordinary.signature (ordinary : stub.Ordinary) :
    stub.signature = ⟨"self", .positional, false⟩ :: stub.parameters := by
  have others : (stub.parameters.any fun p => p.kind = .positionalOnly) = false := by
    simpa using fun p member => by simp [ordinary.positional p member]
  simp [Stub.signature, ordinary.kind, others]

private theorem Ordinary.positional_signature (ordinary : stub.Ordinary) :
    ∀ p ∈ stub.signature, p.kind = .positional := by
  rw [ordinary.signature]
  exact List.forall_mem_cons.mpr ⟨rfl, ordinary.positional⟩

private theorem Ordinary.names_signature (ordinary : stub.Ordinary) :
    stub.signature.map Parameter.name = "self" :: stub.parameters.map Parameter.name := by
  rw [ordinary.signature]
  rfl

theorem Ordinary.bind_of_accepts (ordinary : stub.Ordinary)
    (accepts : stub.Accepts arguments keywords) :
    ∃ values, Leading (stub.received arguments keywords) values ∧
      Signature.bind stub.signature arguments (Dictionary.ofEntries keywords) = .ok values := by
  have names := ordinary.names_signature
  obtain ⟨values, leading, bound⟩ := Signature.bind_of_accepts ordinary.positional_signature
    (names ▸ ordinary.apart) (by rw [names]; exact accepts)
  rw [names, Signature.received_cons] at leading
  exact ⟨_, leading.tail, bound⟩

theorem Ordinary.bind_of_misfit (ordinary : stub.Ordinary)
    (misfit : ¬ stub.Accepts arguments keywords) :
    ∃ fault, stub.Rejects arguments keywords fault ∧
      Signature.bind stub.signature arguments (Dictionary.ofEntries keywords) = .error fault := by
  have names := ordinary.names_signature
  obtain ⟨fault, rejects⟩ := Signature.exists_rejects misfit
  exact ⟨fault, rejects, Signature.bind_of_rejects ordinary.positional_signature
    (names ▸ ordinary.apart) (by rw [names]; exact rejects)⟩

end Stub

namespace Repository

variable {settings : Settings} {modules : Modules} {declared : RepositoryClass}
  {repository : Repository} {stub : Stub}

/-- A query method is found under its name. It was compiled among the names that the methods before
it left. -/
theorem find?_methods (created : (create settings modules declared).result = .ok repository)
    (queries : declared.Queries stub) :
    ∃ names query, ((∀ other, declared.Queries other → other.LeavesNames modules) →
        names = modules) ∧
      stub.Compiles names repository.entity query ∧
      repository.methods.find? (fun method => method.name == stub.name) =
        some ⟨stub.name, stub.signature, query⟩ := by
  have bound := Stub.forall₂_bindAll (bindAll_of_create created).2
  obtain ⟨method, listed, ⟨name, -, -⟩⟩ :=
    exists_of_forall₂ bound.flip (RepositoryClass.mem_queryStubs_iff.mpr queries)
  cases found : repository.methods.find? fun method => method.name == stub.name with
  | none => exact absurd (List.find?_eq_none.mp found _ listed) (by simp [name])
  | some method =>
      obtain ⟨other, member, otherName, signature, names, unchanged, compiles⟩ :=
        exists_of_forall₂ bound (List.mem_of_find?_eq_some found)
      have sameName : method.name = stub.name := by simpa using List.find?_some found
      obtain rfl := (RepositoryClass.mem_queryStubs_iff.mp member).unique queries
        (otherName.symm.trans sameName)
      refine ⟨names, method.query, fun steady => unchanged fun other inside => ?_, compiles, ?_⟩
      · exact steady other (RepositoryClass.mem_queryStubs_iff.mp inside)
      · rw [← otherName, ← signature]

section Calls

variable {query : CompiledQuery} {arguments others : List Datum} {keywords otherKeywords : Keywords}

theorem call_of_accepts (ordinary : stub.Ordinary)
    (found : repository.methods.find? (fun method => method.name == stub.name) =
      some ⟨stub.name, stub.signature, query⟩) (accepts : stub.Accepts arguments keywords) :
    ∃ values, Leading (stub.received arguments keywords) values ∧
      ∀ settings backend, repository.call settings backend stub.name arguments keywords =
        CallResult.outcome <$> query.execute settings backend values := by
  obtain ⟨values, leading, bound⟩ := ordinary.bind_of_accepts accepts
  refine ⟨values, leading, fun settings backend => ?_⟩
  rw [call, found]
  simp only [bound]
  rfl

/-- What counts is which value each parameter receives, not how it is given. -/
theorem call_of_received (ordinary : stub.Ordinary)
    (found : repository.methods.find? (fun method => method.name == stub.name) =
      some ⟨stub.name, stub.signature, query⟩) (accepts : stub.Accepts arguments keywords)
    (acceptsOthers : stub.Accepts others otherKeywords)
    (same : stub.received arguments keywords = stub.received others otherKeywords)
    (settings : Settings) (backend : Backend) :
    repository.call settings backend stub.name arguments keywords =
      repository.call settings backend stub.name others otherKeywords := by
  obtain ⟨values, leading, calls⟩ := call_of_accepts ordinary found accepts
  obtain ⟨again, leadingAgain, callsAgain⟩ := call_of_accepts ordinary found acceptsOthers
  rw [same] at leading
  rw [calls, callsAgain, leading.unique leadingAgain]

theorem call_of_misfit (ordinary : stub.Ordinary)
    (found : repository.methods.find? (fun method => method.name == stub.name) =
      some ⟨stub.name, stub.signature, query⟩) (misfit : ¬ stub.Accepts arguments keywords) :
    ∃ fault, stub.Rejects arguments keywords fault ∧
      ∀ settings backend, repository.call settings backend stub.name arguments keywords =
        ⟨[], [], .error (.call fault)⟩ := by
  obtain ⟨fault, rejects, unbound⟩ := ordinary.bind_of_misfit misfit
  refine ⟨fault, rejects, fun settings backend => ?_⟩
  rw [call, found]
  simp only [unbound]
  rfl

end Calls

/-- A call that fits the signature executes the query on the values that the first parameters
received, up to the first parameter without one. Each clause that takes an argument gets it from the
parameter of its number, and calls that give the same values to the same parameters are the same.
Where the properties are fields and the values can be wrapped, too few arguments are reported
exactly when there are fewer values than clauses that take one. A call that does not fit the
signature fails for its first fault, whatever the backend, which gets no query. -/
theorem call_binds_parameters
    (created : (create settings modules declared).result = .ok repository)
    (queries : declared.Queries stub) (ordinary : stub.Ordinary) :
    ∃ names query, ((∀ other, declared.Queries other → other.LeavesNames modules) →
      names = modules) ∧ stub.Compiles names repository.entity query ∧
    (∀ arguments keywords, stub.Accepts arguments keywords → ∃ values,
      Leading (stub.received arguments keywords) values ∧
      (∀ settings backend, repository.call settings backend stub.name arguments keywords =
        CallResult.outcome <$> query.execute settings backend values) ∧
      (∀ i bound, (bindClauses query.name.clauses values)[i]? = some bound →
        ∀ argument ∈ bound.argument, (stub.received arguments keywords)[
          (query.name.clauses.take i).countP Clause.takesArgument]? = some (some argument)) ∧
      ((∀ clause ∈ query.name.clauses, query.model.HasField clause.property) →
        (∀ value ∈ values, value.Wraps) → ∀ settings backend,
        ((∃ failure, (repository.call settings backend stub.name arguments keywords).result =
            .error failure ∧ failure.failureClass = .tooFewArguments) ↔
          values.length < query.name.clauses.countP Clause.takesArgument))) ∧
    (∀ arguments keywords others otherKeywords, stub.Accepts arguments keywords →
      stub.Accepts others otherKeywords →
      stub.received arguments keywords = stub.received others otherKeywords →
      ∀ settings backend, repository.call settings backend stub.name arguments keywords =
        repository.call settings backend stub.name others otherKeywords) ∧
    ∀ arguments keywords, ¬ stub.Accepts arguments keywords → ∃ fault,
      stub.Rejects arguments keywords fault ∧ (Failure.call fault).failureClass = .type ∧
      ∀ settings backend, repository.call settings backend stub.name arguments keywords =
        ⟨[], [], .error (.call fault)⟩ := by
  obtain ⟨names, query, unchanged, compiles, found⟩ := find?_methods created queries
  refine ⟨names, query, unchanged, compiles, fun arguments keywords accepts => ?_,
    fun _ _ _ _ => call_of_received ordinary found, fun arguments keywords misfit => ?_⟩
  · obtain ⟨values, leading, calls⟩ := call_of_accepts ordinary found accepts
    refine ⟨values, leading, calls, fun i bound isBound argument taken => ?_,
      fun properties wraps settings backend => ?_⟩
    · rw [bindClauses, List.getElem?_mapIdx] at isBound
      obtain ⟨clause, -, rfl⟩ := Option.map_eq_some_iff.mp isBound
      exact leading.found _ argument taken
    · obtain ⟨resolved, after, -, compiled⟩ := compiles
      rw [calls, ← CompiledQuery.execute_tooFew_iff compiled properties wraps settings backend]
      simp only [Logged.result_map, map_eq_error]
  · obtain ⟨fault, rejects, fails⟩ := call_of_misfit ordinary found misfit
    exact ⟨fault, rejects, rfl, fails⟩

def ratedStub : Stub :=
  { name := "findByTitleAndRating"
    kind := .method
    parameters := [⟨"title", .positional, false⟩, ⟨"rating", .positional, false⟩]
    home := "library"
    annotations := [] }

def ratedArchive : RepositoryClass :=
  { own := ⟨"Archive", some (.model bookModel), [ratedStub]⟩, parents := [] }

/-- The rating does not take the place of a title that is not given. -/
theorem call_binds_parameters_books :
    ∃ repository, (create {} (fun _ => []) ratedArchive).result = .ok repository ∧
      ∀ settings backend,
        (∃ failure, (repository.call settings backend ratedStub.name []
          [("rating", .integer 3)]).result = .error failure ∧
            failure.failureClass = .tooFewArguments) ∧
        repository.call settings backend ratedStub.name []
            [("rating", .integer 3), ("title", .text "a")] =
          repository.call settings backend ratedStub.name [.text "a"] [("rating", .integer 3)] ∧
        ∃ fault, repository.call settings backend ratedStub.name [.text "a"]
          [("title", .text "b")] = ⟨[], [], .error (.call fault)⟩ := by
  have parsed : QueryName.parse "findByTitleAndRating" = .ok ⟨.find, false, none,
      [[⟨"title", .simpleProperty⟩, ⟨"rating", .simpleProperty⟩]], []⟩ := by decide +kernel
  have queries : ratedArchive.Queries ratedStub :=
    ⟨.own ⟨[], [], rfl, nofun⟩, nofun, QueryName.isQueryName_iff.mp (by decide +kernel)⟩
  have ordinary : ratedStub.Ordinary := ⟨rfl, by decide, by decide⟩
  have typed : ratedArchive.entity? = some (.model bookModel) := rfl
  have only (stub : Stub) (queries : ratedArchive.Queries stub) : stub = ratedStub := by
    rcases queries.declares with last | ⟨-, ⟨⟩⟩
    exact List.mem_singleton.mp last.mem
  have steady (stub : Stub) (queries : ratedArchive.Queries stub) :
      stub.LeavesNames fun _ => [] :=
    only stub queries ▸ Stub.leavesNames_of_unannotated rfl
  have created : ∃ repository, (create {} (fun _ => []) ratedArchive).result = .ok repository := by
    refine (exists_create steady typed).mpr ⟨rfl, fun stub queries => ?_, _, rfl⟩
    obtain rfl := only stub queries
    obtain ⟨query, compiles⟩ := @Stub.exists_compiles (fun _ => []) ratedStub bookModel _ rfl parsed
      ⟨by decide, rfl, by decide, by decide⟩
    exact ⟨query, compiles, rfl, rfl⟩
  obtain ⟨repository, created⟩ := created
  obtain ⟨names, query, -, ⟨resolved, after, resolves, compiled⟩, fits, alike, misfits⟩ :=
    call_binds_parameters created queries ordinary
  refine ⟨repository, created, fun settings backend => ⟨?_, ?_, ?_⟩⟩
  · -- The title, the first parameter, receives nothing, so no value is bound at all.
    rw [Stub.resolve_of_unannotated rfl] at resolves
    obtain ⟨rfl, -⟩ := Prod.mk.inj (Except.ok.inj resolves)
    rw [← Option.some.inj (typed.symm.trans (bindAll_of_create created).1)] at compiled
    have compiles := (QueryMethod.compile_eq_ok_iff.mp compiled).1
    have name := Except.ok.inj (parsed.symm.trans compiles.parsed)
    have model := TypeReference.model.inj compiles.typed
    have accepts : ratedStub.Accepts [] [("rating", .integer 3)] :=
      ⟨by decide, by decide, by decide⟩
    obtain ⟨values, leading, -, -, tooFew⟩ := fits _ _ accepts
    obtain rfl := leading.unique (.nil nofun)
    refine (tooFew ?_ nofun settings backend).mpr ?_
    · rw [← name, ← model]
      decide
    · rw [← name]
      decide
  · have byName : ratedStub.Accepts [] [("rating", .integer 3), ("title", .text "a")] :=
      ⟨by decide, by decide, by decide⟩
    have mixed : ratedStub.Accepts [.text "a"] [("rating", .integer 3)] :=
      ⟨by decide, by decide, by decide⟩
    exact alike _ _ _ _ byName mixed rfl settings backend
  · obtain ⟨fault, -, -, calls⟩ := misfits [.text "a"] [("title", .text "b")] fun accepts =>
      accepts.once "title" (by decide) (by decide)
    exact ⟨fault, calls settings backend⟩

end Repository

end DerivedQuery
