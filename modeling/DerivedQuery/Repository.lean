import DerivedQuery.Arguments
import DerivedQuery.Method.Execution
import DerivedQuery.Repository.Annotation
import DerivedQuery.Repository.Signature

/-!
# Repositories

A repository class declares stubs of methods, and may extend another class. Creating a repository
makes an instance of the class and compiles every public stub whose name starts with a verb, in the
order of the names, with what its annotations say. It fails at the first stub that cannot be
compiled, or put into the instance. A call of a compiled method binds its arguments by the signature
of the stub.
-/

set_option autoImplicit false

namespace DerivedQuery

/-- How a stub belongs to its class. -/
inductive StubKind where
  | method
  | static
  | classMethod
  deriving DecidableEq, Repr

/-- A declared method without a body. -/
structure Stub where
  name : String
  kind : StubKind
  /-- The parameters as declared, without the receiver. -/
  parameters : List Parameter
  /-- The name of the module that the stub is declared in. -/
  home : String
  /-- The annotations by the names of the parameters, and the one of the result as `return`, in the
  order in which they are resolved. -/
  annotations : List (String × Meaning)
  deriving Repr

namespace Stub

/-- The parameters with the receiver, which all but static methods have first. It is positional-only
when another parameter is. -/
def signature (stub : Stub) : List Parameter :=
  if stub.kind = .static then stub.parameters
  else
    let kind :=
      if stub.parameters.any fun parameter => parameter.kind = .positionalOnly then
        .positionalOnly
      else .positional
    { name := "self", kind } :: stub.parameters

/-- The arguments of a call with the receiver, which all but static methods get first. -/
def given (stub : Stub) (arguments : List Datum) : List Datum :=
  if stub.kind = .static then arguments else .null :: arguments

end Stub

/-- The declaration of a class: what it adds to the class that it extends. -/
structure ClassDeclaration where
  name : String
  entity : Option TypeReference
  stubs : List Stub
  deriving Repr

/-- What a class does when an instance is made and written to. Where it declares nothing of the kind
everything passes. -/
structure InstanceRules where
  /-- Makes an instance. -/
  make : Except Failure Unit := .ok ()
  /-- Puts a compiled method among those of the instance. -/
  keep : String → Except Failure Unit := fun _ => .ok ()
  /-- Sets the attribute of the instance that calls a compiled method. -/
  attach : String → Except Failure Unit := fun _ => .ok ()
  /-- The number of compiled methods that the instance has, of those that were put there. -/
  count : Nat → Except Failure Nat := .ok

/-- A class with the classes that it extends, nearest first. -/
structure RepositoryClass where
  own : ClassDeclaration
  parents : List ClassDeclaration
  rules : InstanceRules := {}

namespace RepositoryClass

/-- The declarations, nearest first. -/
def declarations (repository : RepositoryClass) : List ClassDeclaration :=
  repository.own :: repository.parents

/-- The entity type that a class gets from declarations, nearest first. The nearest declared type
counts where it is a class. A class without one has the type of the class that it extends, unless a
stub takes the place of the type. -/
def entityOf? : List ClassDeclaration → Option TypeReference
  | [] => none
  | declaration :: parents =>
      match (declaration :: parents).findSome? ClassDeclaration.entity with
      | some (.model described) => some (.model described)
      | some (.plainClass name) => some (.plainClass name)
      | _ =>
          if declaration.stubs.any fun stub => stub.name == "entity_type" then
            some (.plainClass "entity_type")
          else entityOf? parents

/-- The entity type of a class. -/
def entity? (repository : RepositoryClass) : Option TypeReference :=
  entityOf? repository.declarations

/-- The stubs of the class in the order of their names. Of several stubs with one name the nearest
counts, and among those of one declaration the last. -/
def members (repository : RepositoryClass) : List Stub :=
  let stubs := repository.declarations.reverse.flatMap ClassDeclaration.stubs
  let latest := (Dictionary.ofEntries (stubs.map fun stub => (stub.name, stub))).map Prod.snd
  stableSort (fun a b => compareTexts a.name b.name == .lt) latest

/-- The stubs that are query methods, in the order of their names. -/
def queryStubs (repository : RepositoryClass) : List Stub :=
  repository.members.filter fun stub =>
    stub.kind ≠ .classMethod && QueryName.isQueryName stub.name

end RepositoryClass

/-- A compiled method of a repository with its signature. -/
structure BoundMethod where
  name : String
  signature : List Parameter
  query : CompiledQuery
  deriving Repr

/-- A repository: its entity type, its compiled methods in the order of their names, and the stubs
that were left alone. -/
structure Repository where
  name : String
  entity : TypeReference
  methods : List BoundMethod
  unbound : List Stub
  deriving Repr

/-- Is the entity type a stub that took its place? -/
def TypeReference.isStub : TypeReference → Bool
  | .plainClass name => name == "entity_type"
  | _ => false

/-- What a call of a method returns. -/
inductive CallResult where
  /-- The method was left alone. -/
  | stub
  | outcome (outcome : Outcome)
  /-- The entity type was called. -/
  | created (item : Item)
  deriving Repr

/-- The names that each module defines, by the name of the module. -/
abbrev Modules := String → ModuleNames

namespace Stub

/-- What the annotations of a stub say, with the names of the modules afterwards. They are resolved
among the names of the module of the stub, where they may set names of their own. -/
def resolve (modules : Modules) (stub : Stub) :
    Except Failure (List (String × Meaning) × Modules) := do
  let resolving := Annotation.resolveAll stub.annotations
  let (resolved, scope) ← resolving.run { globals := modules stub.home }
  .ok (resolved, fun home => if home = stub.home then scope.globals else modules home)

/-- The query method that a stub declares, given what its annotations say. -/
def queryMethod (entity : TypeReference) (stub : Stub) (resolved : List (String × Meaning)) :
    QueryMethod :=
  let view := Annotation.view? resolved
  .declare stub.name entity (view.map .model)

/-- Compiles a stub, logs what was bound, and puts it into the instance. -/
def bind (settings : Settings) (rules : InstanceRules) (modules : Modules) (entity : TypeReference)
    (stub : Stub) : Logged (BoundMethod × Modules) := do
  let (resolved, after) ← stub.resolve modules
  let query ← (stub.queryMethod entity resolved).compileLogged settings
  rules.keep stub.name
  rules.attach stub.name
  pure (⟨stub.name, stub.signature, query⟩, after)

/-- Compiles stubs one after the other. -/
def bindAll (settings : Settings) (rules : InstanceRules) (modules : Modules)
    (entity : TypeReference) : List Stub → Logged (List BoundMethod)
  | [] => pure []
  | stub :: rest => do
      let (method, after) ← stub.bind settings rules modules entity
      let methods ← bindAll settings rules after entity rest
      pure (method :: methods)

end Stub

namespace Repository

/-- Creates a repository of a class. -/
def create (settings : Settings) (modules : Modules) (declared : RepositoryClass) :
    Logged Repository :=
  match declared.entity? with
  | none => .ofExcept (.error (.noEntityType declared.own.name))
  | some entity => do
      declared.rules.make
      let methods ← Stub.bindAll settings declared.rules modules entity declared.queryStubs
      let count ← declared.rules.count methods.length
      Logged.write .repositories settings.messageLevel <|
        "Created " ++ declared.own.name ++ " with " ++ toString count ++
          " query methods for " ++ entity.name
      let bound := methods.map BoundMethod.name
      let unbound := declared.members.filter fun stub => !bound.contains stub.name
      pure ⟨declared.own.name, entity, methods, unbound⟩

/-- Calls the entity type: a model makes an entity of data given by name, and a class without
parameters makes an object. -/
def createEntity (entity : TypeReference) (arguments : List Datum) (keywords : Keywords) :
    Except Failure Item :=
  match entity with
  | .model described =>
      if arguments.isEmpty then (described.load (Dictionary.ofEntries keywords)).map .entity
      else .error (.positionalData arguments.length)
  | reference =>
      if arguments.isEmpty && keywords.isEmpty then
        .ok (.datum (if reference.name = "int" then .integer 0
          else .foreign (.other reference.name)))
      else .error (.classArguments reference.name)

/-- Calls a stub that was left alone: all that can go wrong is that the arguments do not fit. -/
def callStub (stub : Stub) (arguments : List Datum) (keywords : Keywords) :
    Except Failure CallResult :=
  match TakenArguments.take stub.signature (stub.given arguments) keywords with
  | .ok _ => .ok .stub
  | .error fault => .error (.arguments stub.name fault)

/-- The rules of a class whose own methods are stubs, of which all give a text. The initializer must
give nothing; one that sets attributes sets none, so that there are no compiled methods to add to. -/
def stubRules (name : String) (members : List Stub) : InstanceRules :=
  let declared? (method : String) := members.find? fun stub => stub.name == method
  let called (stub : Stub) (arguments : List Datum) : Except Failure Unit :=
    discard (callStub stub arguments [])
  let set : Except Failure Unit :=
    match declared? "__setattr__" with
    | some stub => called stub [.null, .null]
    | none => .ok ()
  let queries : Except Failure Unit :=
    if (declared? "__setattr__").isSome then .error (.noAttribute (.object name) "queries")
    else .ok ()
  { make :=
      match declared? "__init__" with
      | some stub => do
          called stub []
          .error (.initializerResult "str")
      | none => set
    keep := fun _ => queries
    attach := fun _ => set
    count := fun kept => do
      queries
      .ok kept }

/-- What the names stand for, by type, that every repository has besides its methods. None of it can
be called. -/
def innerNames : List (String × String) :=
  [("__annotations__", "dict"), ("__dict__", "dict"), ("__doc__", "NoneType"),
    ("__module__", "str"), ("__orig_bases__", "tuple"), ("__parameters__", "tuple"),
    ("__slots__", "tuple"), ("__weakref__", "NoneType")]

/-- Calls a method by its name. The name `queries` stands for the dictionary of the compiled
methods, which hides a stub of that name, and `entity_type` for the entity type, unless that is a
stub itself. -/
def call (settings : Settings) (backend : Backend) (repository : Repository) (name : String)
    (arguments : List Datum) (keywords : Keywords) : Logged CallResult :=
  match repository.methods.find? fun method => method.name == name with
  | some method => do
      let positional ←
        (Signature.bind method.signature arguments (Dictionary.ofEntries keywords)).mapError
          Failure.call
      let outcome ← method.query.execute settings backend positional
      pure (.outcome outcome)
  | none =>
      if name = "queries" then .ofExcept (.error (.notCallable "dict"))
      else if name = "entity_type" && !repository.entity.isStub then do
        let item ← createEntity repository.entity arguments keywords
        pure (.created item)
      else
        match repository.unbound.find? fun stub => stub.name == name with
        | some stub => .ofExcept (callStub stub arguments (Dictionary.ofEntries keywords))
        | none =>
            match Dictionary.get? innerNames name with
            | some typeName => .ofExcept (.error (.notCallable typeName))
            | none => .ofExcept (.error (.noAttribute (.object repository.name) name))

end Repository

end DerivedQuery
