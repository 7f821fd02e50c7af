import DerivedQuery.Method.Execution

/-!
# Store sessions

A session is a store together with the query methods that were compiled for it. Steps change the
store or read it; a step that fails leaves it as it was, but for a list of objects to save, of which
those before the failing one are saved.
-/

set_option autoImplicit false

namespace DerivedQuery

/-- A store with compiled query methods. -/
structure Session where
  store : Store := {}
  compiled : List (String × CompiledQuery) := []
  deriving Repr

/-- One step of a session. -/
inductive Step where
  | save (item : Item)
  /-- The objects are made one by one while they are saved, which may fail. -/
  | saveAll (items : List (Except Failure Item))
  | count (kind : Option String)
  | clear
  | query (query : StructuredQuery) (entity : TypeReference)
  | compile (label : String) (method : QueryMethod)
  | build (label : String) (arguments : List Datum)
  | raw (label : String) (arguments : List Datum)
  | execute (label : String) (arguments : List Datum)
  deriving Repr

/-- What a step answers. -/
inductive Answer where
  | item (item : Item)
  | items (items : List Item)
  | count (n : Nat)
  | done
  | compiled (query : CompiledQuery)
  | built (query : StructuredQuery)
  | outcome (outcome : Outcome)
  deriving Repr

namespace Session

/-- A query method that was compiled under a label. -/
def find (session : Session) (label : String) : Except Failure CompiledQuery :=
  match Dictionary.get? session.compiled label with
  | some query => .ok query
  | none => .error (.unknownLabel label)

/-- One step: the session after it, and its answer. -/
def step (settings : Settings) (session : Session) : Step → Session × Logged Answer
  | .save item =>
      match session.store.save item with
      | .error failure => (session, .ofExcept (.error failure))
      | .ok store => ({ session with store }, pure (.item item))
  | .saveAll items =>
      let (store, result) := session.store.saveAll items
      ({ session with store }, do
        let saved ← result
        Store.logSaved saved
        pure (.items saved))
  | .count kind => (session, pure (.count (session.store.count kind)))
  | .clear => ({ session with store := {} }, pure .done)
  | .query query entity => (session, do
      let entities ← session.store.answer query entity
      pure (.items (entities.map .entity)))
  | .compile label method =>
      let compiled := method.compileLogged settings
      match compiled.result with
      | .error failure => (session, ⟨compiled.entries, compiled.sent, .error failure⟩)
      | .ok query =>
          ({ session with compiled := Dictionary.put label query session.compiled },
            ⟨compiled.entries, compiled.sent, .ok (.compiled query)⟩)
  | .build label arguments => (session, do
      let query ← session.find label
      let built ← query.buildLogged settings arguments
      pure (.built built))
  | .raw label arguments => (session, do
      let query ← session.find label
      let items ← query.raw settings (.store session.store) arguments
      pure (.outcome (.items items)))
  | .execute label arguments => (session, do
      let query ← session.find label
      let outcome ← query.execute settings (.store session.store) arguments
      pure (.outcome outcome))

end Session

end DerivedQuery
