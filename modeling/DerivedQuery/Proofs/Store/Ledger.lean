import DerivedQuery.Proofs.Method.Meaning
import DerivedQuery.Store.Session
import Mathlib.Algebra.BigOperators.Group.Finset.Basic

/-!
# Sessions as ledgers

A ledger writes down every saved record with its kind, in one list for all kinds, and the method
that was compiled last under each label. It answers a step from these alone: a query is evaluated
over the entries of its kind, and a method is compiled afresh for every call. A session that takes
the same steps gives the same answers at every point.
-/

set_option autoImplicit false

namespace DerivedQuery

/-- The entry that saving an object makes, once the object is made: its kind and its record. -/
def savedEntry (item : Except Failure Item) : Except Failure (String × Record) := do
  let item ← item
  item.toRecord

/-- The object, where it is made and has a record. -/
def savedItem (item : Except Failure Item) : Except Failure Item := do
  let item ← item
  let _ ← item.toRecord
  .ok item

/-- The entries of the objects before the first one that is not made or has no record. -/
def accepted (items : List (Except Failure Item)) : List (String × Record) :=
  ((items.map savedEntry).takeWhile Except.isOk).filterMap Except.toOption

/-- The records that a query finds in a list of records of its kind. -/
def StructuredQuery.evaluate (query : StructuredQuery) (records : List Record) :
    Except Failure (List Record) := do
  let met ← match query.filter with
    | none => .ok records
    | some filter => Store.filterRecords filter records
  let sorted ← Store.sortByAll query.orders met
  .ok (Store.cut query.limit sorted)

/-- The step writes nothing to the store. -/
def Step.Reads : Step → Prop
  | .save _ | .saveAll _ | .clear => False
  | .count _ | .query _ _ | .compile _ _ | .build _ _ | .raw _ _ | .execute _ _ => True

structure Ledger where
  entries : List (String × Record) := []
  method : String → Option QueryMethod := fun _ => none

namespace Ledger

/-- The records of a kind in the order of saving. -/
def records (ledger : Ledger) (kind : String) : List Record :=
  (ledger.entries.filter fun entry => entry.1 = kind).map Prod.snd

/-- The entries and methods after a step. -/
def step (ledger : Ledger) : Step → Ledger
  | .save item => { ledger with entries := ledger.entries ++ accepted [.ok item] }
  | .saveAll items => { ledger with entries := ledger.entries ++ accepted items }
  | .clear => { ledger with entries := [] }
  | .compile label method =>
      match method.compile with
      | .error _ => ledger
      | .ok _ => { ledger with method := Function.update ledger.method label (some method) }
  | .count _ | .query _ _ | .build _ _ | .raw _ _ | .execute _ _ => ledger

/-- The method under a label, compiled afresh. -/
def compiled (ledger : Ledger) (label : String) : Except Failure CompiledQuery :=
  match ledger.method label with
  | some method => method.compile
  | none => .error (.unknownLabel label)

theorem compiled_update (ledger : Ledger) (label other : String) (method : QueryMethod) :
    ({ ledger with method := Function.update ledger.method label (some method) } : Ledger).compiled
        other =
      if label = other then method.compile else ledger.compiled other := by
  by_cases same : label = other
  · simp [compiled, same]
  · simp [compiled, same, Ne.symm same]

/-- The entities of a model that a query finds. -/
def find (ledger : Ledger) (query : StructuredQuery) (entity : TypeReference) :
    Except Failure (List Entity) := do
  let records ← query.evaluate (ledger.records query.kind)
  let model ← entity.toModel
  Store.loadAll model records

/-- The results of a call. -/
def call (ledger : Ledger) (query : CompiledQuery) (arguments : List Datum) :
    Except Failure (List Item) := do
  let built ← query.build arguments
  let entities ← ledger.find built (.model query.model)
  .ok (entities.map .entity)

/-- What a step answers. -/
def answer (ledger : Ledger) : Step → Except Failure Answer
  | .save item => (savedItem (.ok item)).map .item
  | .saveAll items => (items.mapM savedItem).map .items
  | .count none => .ok (.count ledger.entries.length)
  | .count (some kind) => .ok (.count (ledger.records kind).length)
  | .clear => .ok .done
  | .query query entity =>
      (ledger.find query entity).map fun entities => .items (entities.map .entity)
  | .compile _ method => method.compile.map .compiled
  | .build label arguments => do
      let query ← ledger.compiled label
      let built ← query.build arguments
      .ok (.built built)
  | .raw label arguments => do
      let query ← ledger.compiled label
      let items ← ledger.call query arguments
      .ok (.outcome (.items items))
  | .execute label arguments => do
      let query ← ledger.compiled label
      let items ← ledger.call query arguments
      let outcome ← query.shaped items
      .ok (.outcome outcome)

/-- The ledger of a run. -/
def after (steps : List Step) : Ledger := steps.foldl step {}

end Ledger

namespace Store

/-- The store holds the entries. -/
structure Keeps (store : Store) (entries : List (String × Record)) : Prop where
  records : ∀ kind, store.records kind = (entries.filter fun entry => entry.1 = kind).map Prod.snd
  total : store.count none = entries.length

theorem keeps_empty : ({} : Store).Keeps [] := ⟨fun _ => rfl, rfl⟩

private theorem total_put (kind : String) (record : Record) (kinds : List (String × List Record)) :
    ((Dictionary.put kind ((Dictionary.get? kinds kind).getD [] ++ [record]) kinds).map
      fun entry => entry.2.length).foldr Nat.add 0 =
      (kinds.map fun entry => entry.2.length).foldr Nat.add 0 + 1 := by
  induction kinds with
  | nil => rfl
  | cons entry kinds ih =>
      rw [Dictionary.put_cons, Dictionary.get?_cons]
      by_cases here : entry.1 = kind
      · simp only [here, if_true, Option.getD_some, List.map_cons, List.foldr_cons, Nat.add_eq,
          List.length_append, List.length_singleton]
        omega
      · simp only [here, if_false, List.map_cons, List.foldr_cons, Nat.add_eq, ih]
        omega

variable {store : Store} {entries : List (String × Record)}

theorem Keeps.append (keeps : store.Keeps entries) (entry : String × Record) :
    (store.append entry.1 entry.2).Keeps (entries ++ [entry]) := by
  constructor
  · intro kind
    rw [records_append, keeps.records, List.filter_append, List.map_append]
    by_cases same : entry.1 = kind <;> simp [same]
  · rw [List.length_append, ← keeps.total]
    exact total_put _ _ _

theorem Keeps.appendAll (keeps : store.Keeps entries) (more : List (String × Record)) :
    (more.foldl (fun store entry => store.append entry.1 entry.2) store).Keeps
      (entries ++ more) := by
  induction more generalizing store entries with
  | nil => simpa using keeps
  | cons entry more ih => simpa using ih (keeps.append entry)

section

variable {item : Except Failure Item} {items : List (Except Failure Item)} {failure : Failure}

theorem savedItem_eq_error : savedItem item = .error failure ↔ savedEntry item = .error failure := by
  unfold savedItem savedEntry
  simp only [bind_eq_error, reduceCtorEq, and_false, exists_false, or_false]

theorem savedItem_of_ok {item : Item} {entry : String × Record}
    (saved : savedEntry (.ok item) = .ok entry) : savedItem (.ok item) = .ok item := by
  obtain ⟨_, same, toRecord⟩ := bind_eq_ok.mp saved
  obtain rfl := Except.ok.inj same
  exact bind_eq_ok.mpr ⟨item, rfl, bind_eq_ok.mpr ⟨entry, toRecord, rfl⟩⟩

theorem accepted_of_error (failed : savedEntry item = .error failure) :
    accepted (item :: items) = [] := by
  rw [accepted, List.map_cons, failed]
  rfl

theorem accepted_of_ok {entry : String × Record} (saved : savedEntry item = .ok entry) :
    accepted (item :: items) = entry :: accepted items := by
  rw [accepted, List.map_cons, saved]
  rfl

/-- An object that cannot be saved ends the saving before it. -/
theorem accepted_before {front : List (Except Failure Item)} (back : List (Except Failure Item))
    {entries : List (String × Record)} (saved : front.mapM savedEntry = .ok entries)
    (failed : savedEntry item = .error failure) :
    accepted (front ++ item :: back) = entries ∧
      (front ++ item :: back).mapM savedItem = .error failure := by
  induction front generalizing entries with
  | nil =>
      obtain rfl := Except.ok.inj saved
      refine ⟨accepted_of_error failed, ?_⟩
      rw [List.nil_append, List.mapM_cons, savedItem_eq_error.mpr failed]
      rfl
  | cons first front ih =>
      rw [List.mapM_cons] at saved
      obtain ⟨entry, here, saved⟩ := bind_eq_ok.mp saved
      obtain ⟨others, later, same⟩ := bind_eq_ok.mp saved
      obtain rfl := Except.ok.inj same
      obtain ⟨before, fails⟩ := ih later
      refine ⟨by rw [List.cons_append, accepted_of_ok here, before], ?_⟩
      rw [List.cons_append, List.mapM_cons]
      cases kept : savedItem first with
      | error other => exact nomatch here.symm.trans (savedItem_eq_error.mp kept)
      | ok item => exact bind_eq_error.mpr (.inr ⟨item, rfl, bind_eq_error.mpr (.inl fails)⟩)

end

theorem save_eq (store : Store) (item : Item) :
    store.save item = (savedEntry (.ok item)).map fun entry => store.append entry.1 entry.2 := by
  unfold save savedEntry
  cases toRecord : item.toRecord <;> simp [bind, Except.bind, toRecord, Except.map]

theorem saveAll_eq (store : Store) (items : List (Except Failure Item)) :
    store.saveAll items =
      ((accepted items).foldl (fun store entry => store.append entry.1 entry.2) store,
        items.mapM savedItem) := by
  induction items generalizing store with
  | nil => rfl
  | cons item items ih =>
      rw [List.mapM_cons]
      cases item with
      | error failure => rfl
      | ok item =>
          rw [saveAll, save_eq]
          cases saved : savedEntry (.ok item) with
          | error failure =>
              rw [accepted_of_error saved, savedItem_eq_error.mpr saved]
              rfl
          | ok entry =>
              simp only [Except.map, accepted_of_ok saved, ih, List.foldl_cons,
                savedItem_of_ok saved]
              cases items.mapM savedItem <;> rfl

theorem select_eq_evaluate (query : StructuredQuery) :
    store.select query = query.evaluate (store.records query.kind) := rfl

end Store

/-- The session holds what the ledger says. -/
structure Session.Follows (session : Session) (ledger : Ledger) : Prop where
  keeps : session.store.Keeps ledger.entries
  finds : ∀ label, session.find label = ledger.compiled label

namespace Session

variable {session : Session} {ledger : Ledger}

theorem follows_empty : ({} : Session).Follows {} := ⟨Store.keeps_empty, fun _ => rfl⟩

private theorem find_put (session : Session) (label other : String) (query : CompiledQuery) :
    ({ session with compiled := Dictionary.put label query session.compiled } : Session).find
        other =
      if label = other then .ok query else session.find other := by
  unfold find
  rw [Dictionary.get?_put]
  by_cases same : label = other <;> simp [same]

/-- One step keeps a session and its ledger together. -/
theorem Follows.step (settings : Settings) (follows : session.Follows ledger) (step : Step) :
    (session.step settings step).1.Follows (ledger.step step) := by
  cases step with
  | save item =>
      cases saved : savedEntry (.ok item) with
      | error failure =>
          simp only [Session.step, Store.save_eq, saved, Except.map, Ledger.step,
            Store.accepted_of_error saved]
          simpa using follows
      | ok entry =>
          simp only [Session.step, Store.save_eq, saved, Except.map, Ledger.step,
            Store.accepted_of_ok saved]
          exact ⟨follows.keeps.append entry, follows.finds⟩
  | saveAll items =>
      simp only [Session.step, Store.saveAll_eq, Ledger.step]
      exact ⟨follows.keeps.appendAll (accepted items), follows.finds⟩
  | clear => exact ⟨Store.keeps_empty, follows.finds⟩
  | compile label method =>
      have result := QueryMethod.compileLogged_result settings method
      cases compiled : method.compile with
      | error failure =>
          rw [compiled] at result
          simp only [Session.step, result, Ledger.step, compiled]
          exact follows
      | ok query =>
          rw [compiled] at result
          simp only [Session.step, result, Ledger.step, compiled]
          refine ⟨follows.keeps, fun other => ?_⟩
          rw [find_put, Ledger.compiled_update, follows.finds, compiled]
  | count kind => exact follows
  | query query entity => exact follows
  | build label arguments => exact follows
  | raw label arguments => exact follows
  | execute label arguments => exact follows

private theorem find_result {store : Store} (keeps : store.Keeps ledger.entries)
    (query : StructuredQuery) (entity : TypeReference) :
    (store.answer query entity).result = ledger.find query entity := by
  rw [Store.answer_result, Store.select_eq_evaluate, keeps.records]
  rfl

private theorem call_result {store : Store} (settings : Settings)
    (keeps : store.Keeps ledger.entries) (query : CompiledQuery) (arguments : List Datum) :
    (query.raw settings (.store store) arguments).result = ledger.call query arguments := by
  unfold CompiledQuery.raw Ledger.call Backend.answer Backend.find
  simp only [Logged.result_bind, Logged.result_send, CompiledQuery.buildLogged_result,
    find_result keeps]
  rfl

theorem Follows.answer (settings : Settings) (follows : session.Follows ledger) (step : Step) :
    (session.step settings step).2.result = ledger.answer step := by
  cases step with
  | save item =>
      cases saved : savedEntry (.ok item) with
      | error failure =>
          simp only [Session.step, Store.save_eq, saved, Except.map, Ledger.answer,
            Store.savedItem_eq_error.mpr saved]
          rfl
      | ok entry =>
          simp only [Session.step, Store.save_eq, saved, Except.map, Ledger.answer,
            Store.savedItem_of_ok saved]
          rfl
  | saveAll items =>
      simp only [Session.step, Store.saveAll_eq, Ledger.answer]
      cases items.mapM savedItem <;> rfl
  | clear => rfl
  | compile label method =>
      have result := QueryMethod.compileLogged_result settings method
      cases compiled : method.compile with
      | error failure =>
          rw [compiled] at result
          simp only [Session.step, result, Ledger.answer, compiled]
          rfl
      | ok query =>
          rw [compiled] at result
          simp only [Session.step, result, Ledger.answer, compiled]
          rfl
  | count kind =>
      cases kind with
      | none => exact congrArg (fun n => Except.ok (Answer.count n)) follows.keeps.total
      | some kind =>
          exact congrArg (fun records => Except.ok (Answer.count records.length))
            (follows.keeps.records kind)
  | query query entity =>
      simp only [Session.step, Ledger.answer, Logged.result_bind, find_result follows.keeps]
      cases ledger.find query entity <;> rfl
  | build label arguments =>
      simp only [Session.step, Ledger.answer, Logged.result_bind, Logged.result_liftM,
        follows.finds, CompiledQuery.buildLogged_result]
      rfl
  | raw label arguments =>
      simp only [Session.step, Ledger.answer, Logged.result_bind, Logged.result_liftM,
        follows.finds, call_result settings follows.keeps]
      rfl
  | execute label arguments =>
      simp only [Session.step, Ledger.answer, Logged.result_bind, Logged.result_liftM,
        follows.finds, CompiledQuery.execute, call_result settings follows.keeps]
      cases ledger.compiled label with
      | error failure => rfl
      | ok query => cases called : ledger.call query arguments <;> simp [bind, Except.bind, called]

/-- The session after a run that starts from nothing. -/
def after (settings : Settings) (steps : List Step) : Session :=
  steps.foldl (fun session step => (session.step settings step).1) {}

theorem Follows.run (settings : Settings) (follows : session.Follows ledger) (steps : List Step) :
    (steps.foldl (fun session step => (session.step settings step).1) session).Follows
      (steps.foldl Ledger.step ledger) := by
  induction steps generalizing session ledger with
  | nil => exact follows
  | cons step steps ih => exact ih (follows.step settings step)

/-- What a session has in common with a ledger, and what its next step does. -/
structure Agrees (settings : Settings) (session : Session) (ledger : Ledger) : Prop where
  ofKind : ∀ kind, session.store.count (some kind) = (ledger.entries.map Prod.fst).count kind
  ofAll : session.store.count none = ledger.entries.length
  sum : ∑ kind ∈ (ledger.entries.map Prod.fst).toFinset, session.store.count (some kind) =
    session.store.count none
  answers : ∀ step, (session.step settings step).2.result = ledger.answer step
  unchanged : ∀ step, step.Reads ∨
    (∀ items, step ≠ .saveAll items) ∧
      (∃ failure, (session.step settings step).2.result = .error failure) →
    (session.step settings step).1.store = session.store ∧
      (ledger.step step).entries = ledger.entries
  partly : ∀ front item back entries failure, front.mapM savedEntry = .ok entries →
    savedEntry item = .error failure →
    (session.step settings (.saveAll (front ++ item :: back))).2.result = .error failure ∧
      (ledger.step (.saveAll (front ++ item :: back))).entries = ledger.entries ++ entries
  afresh : ∀ label method step, ledger.method label = some method →
    ((session.step settings (.compile label method)).1.step settings step).2.result =
      (session.step settings step).2.result

variable {settings : Settings}

theorem Follows.count_ofKind (follows : session.Follows ledger) (kind : String) :
    session.store.count (some kind) = (ledger.entries.map Prod.fst).count kind := by
  rw [Store.count, follows.keeps.records, List.length_map, List.count, List.countP_map,
    List.countP_eq_length_filter]
  rfl

theorem Follows.sum_count (follows : session.Follows ledger) :
    ∑ kind ∈ (ledger.entries.map Prod.fst).toFinset, session.store.count (some kind) =
      session.store.count none := by
  rw [Finset.sum_congr rfl fun kind _ => follows.count_ofKind kind,
    List.sum_toFinset_count_eq_length, List.length_map, follows.keeps.total]

private theorem unchanged_of_reads {step : Step} (reads : step.Reads) :
    (session.step settings step).1.store = session.store ∧
      (ledger.step step).entries = ledger.entries := by
  cases step with
  | save item => exact reads.elim
  | saveAll items => exact reads.elim
  | clear => exact reads.elim
  | compile label method =>
      simp only [Session.step, Ledger.step]
      constructor
      · split <;> rfl
      · split <;> rfl
  | count kind => exact ⟨rfl, rfl⟩
  | query query entity => exact ⟨rfl, rfl⟩
  | build label arguments => exact ⟨rfl, rfl⟩
  | raw label arguments => exact ⟨rfl, rfl⟩
  | execute label arguments => exact ⟨rfl, rfl⟩

private theorem unchanged_of_failed {step : Step} {failure : Failure}
    (single : ∀ items, step ≠ .saveAll items)
    (failed : (session.step settings step).2.result = .error failure) :
    (session.step settings step).1.store = session.store ∧
      (ledger.step step).entries = ledger.entries := by
  cases step with
  | save item =>
      cases saved : savedEntry (.ok item) with
      | error failure =>
          simp only [Session.step, Store.save_eq, Except.map, Ledger.step, saved,
            Store.accepted_of_error saved]
          simp
      | ok entry =>
          simp only [Session.step, Store.save_eq, Except.map, saved] at failed
          exact nomatch failed
  | saveAll items => exact absurd rfl (single items)
  | clear => exact nomatch failed
  | count kind => exact unchanged_of_reads trivial
  | query query entity => exact unchanged_of_reads trivial
  | compile label method => exact unchanged_of_reads trivial
  | build label arguments => exact unchanged_of_reads trivial
  | raw label arguments => exact unchanged_of_reads trivial
  | execute label arguments => exact unchanged_of_reads trivial

theorem Ledger.step_recompile {label : String} {method : QueryMethod}
    (kept : ledger.method label = some method) : ledger.step (.compile label method) = ledger := by
  rw [Ledger.step]
  cases method.compile with
  | error failure => rfl
  | ok query =>
      obtain ⟨entries, methods⟩ := ledger
      simp only at kept
      simp [← kept]

theorem Follows.agrees (follows : session.Follows ledger) : session.Agrees settings ledger where
  ofKind := follows.count_ofKind
  ofAll := follows.keeps.total
  sum := follows.sum_count
  answers := follows.answer settings
  unchanged step := by
    rintro (reads | ⟨single, failure, failed⟩)
    · exact unchanged_of_reads reads
    · exact unchanged_of_failed single failed
  partly front item back entries failure saved failed := by
    obtain ⟨before, fails⟩ := Store.accepted_before back saved failed
    rw [follows.answer settings, Ledger.answer, Ledger.step, before, fails]
    exact ⟨rfl, rfl⟩
  afresh label method step kept := by
    have recompiled := follows.step settings (.compile label method)
    rw [Ledger.step_recompile kept] at recompiled
    rw [recompiled.answer settings, follows.answer settings]

/-- At every point of a run, a session agrees with the ledger of the run. -/
theorem after_agrees (settings : Settings) (steps : List Step) :
    (after settings steps).Agrees settings (Ledger.after steps) :=
  (follows_empty.run settings steps).agrees

end Session

end DerivedQuery
