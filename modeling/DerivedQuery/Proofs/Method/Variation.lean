import DerivedQuery.Proofs.Method.Binding
import DerivedQuery.Proofs.QueryName.Opening

/-!
# Variations of a name

Methods whose names differ in the verb only are compiled alike and build the same queries, so that
they find the same: counting gives the number of what is found, and asking for existence says
whether there is anything. A limit behind the verb cuts what the name without it finds.
-/

set_option autoImplicit false

namespace DerivedQuery

/-- Both fail with failures of one class, or both succeed with related results. -/
inductive AgreeInClass {α β : Type} (related : α → β → Prop) :
    Except Failure α → Except Failure β → Prop where
  | error {failure other : Failure} (sameClass : other.failureClass = failure.failureClass) :
      AgreeInClass related (.error failure) (.error other)
  | ok {result other} (holds : related result other) : AgreeInClass related (.ok result) (.ok other)

theorem AgreeInClass.bind {α β γ δ : Type} {related : α → β → Prop} {further : γ → δ → Prop}
    {action : Except Failure α} {other : Except Failure β} {next : α → Except Failure γ}
    {nextOther : β → Except Failure δ} (agree : AgreeInClass related action other)
    (agreeNext : ∀ a b, related a b → AgreeInClass further (next a) (nextOther b)) :
    AgreeInClass further (action.bind next) (other.bind nextOther) := by
  cases agree with
  | error sameClass => exact .error sameClass
  | ok holds => exact agreeNext _ _ holds

theorem AgreeInClass.mono {α β : Type} {related further : α → β → Prop}
    {action : Except Failure α} {other : Except Failure β}
    (agree : AgreeInClass related action other)
    (implies : ∀ a b, related a b → further a b) : AgreeInClass further action other := by
  cases agree with
  | error sameClass => exact .error sameClass
  | ok holds => exact .ok (implies _ _ holds)

/-! ## Names that differ in the verb -/

namespace QueryName

variable {name : QueryName} {verb : Verb} {method other : String} {failure : Failure}

/-- Neither verb asks for deletion, so that both names are refused for the same reason. -/
theorem Refused.withVerb (refused : name.Refused method failure)
    (keeping : name.verb ∉ [Verb.delete, Verb.remove])
    (keepingOther : verb ∉ [Verb.delete, Verb.remove]) :
    ∃ again, { name with verb := verb }.Refused other again ∧
      again.failureClass = failure.failureClass := by
  cases refused with
  | deletes deletes => exact absurd deletes keeping
  | distinct _ distinct => exact ⟨_, .distinct keepingOther distinct, rfl⟩
  | disjunctive _ repeating several => exact ⟨_, .disjunctive keepingOther repeating several, rfl⟩
  | unsupported _ repeating conjunctive clauses before unsupported =>
      exact ⟨_, .unsupported keepingOther repeating conjunctive clauses before unsupported, rfl⟩

theorem verb_of_parse {rest : String} (parsed : parse (verb.key ++ rest) = .ok name) :
    name.verb = verb := by
  have same := parse_verb verb verb rest
  rw [parsed] at same
  exact congrArg QueryName.verb (Except.ok.inj same)

end QueryName

/-- The queries have one model and the same clauses, sort order and limit. -/
structure CompiledQuery.AsksSame (query other : CompiledQuery) : Prop where
  model : other.model = query.model
  groups : other.name.groups = query.name.groups
  orders : other.name.orders = query.name.orders
  limit : other.name.limit = query.name.limit

namespace QueryMethod

variable {method other : QueryMethod}

/-- A method whose name is read and can be answered is compiled to this name. -/
theorem exists_compile_of_parse {name : QueryName} {model : Model}
    (parsed : QueryName.parse method.name = .ok name) (typed : method.entity = .model model)
    (answerable : name.Answerable) :
    ∃ query, method.compile = .ok query ∧ query.model = model ∧ query.name = name := by
  obtain ⟨query, compiled⟩ := exists_compile.mpr ⟨name, model, parsed, typed, answerable⟩
  obtain ⟨⟨parsedAgain, typedAgain, -⟩, -⟩ := compile_eq_ok_iff.mp compiled
  refine ⟨query, compiled, ?_, ?_⟩
  · exact TypeReference.model.inj (typedAgain.symm.trans typed)
  · exact Except.ok.inj (parsedAgain.symm.trans parsed)

theorem rejected_verb {failure : Failure} {verb otherVerb : Verb} {rest : String}
    (named : method.name = verb.key ++ rest) (otherNamed : other.name = otherVerb.key ++ rest)
    (entity : other.entity = method.entity) (keeping : verb ∉ [Verb.delete, Verb.remove])
    (keepingOther : otherVerb ∉ [Verb.delete, Verb.remove]) (rejected : method.Rejected failure) :
    ∃ again, other.Rejected again ∧ again.failureClass = failure.failureClass := by
  have parsed := QueryName.parse_verb verb otherVerb rest
  rw [← named, ← otherNamed] at parsed
  cases rejected with
  | @unreadable fault failed =>
      rw [failed] at parsed
      -- The failures report different names, but the fault decides on their class.
      refine ⟨_, .unreadable parsed, ?_⟩
      cases fault <;> rfl
  | unhashable read changeable =>
      rw [read] at parsed
      exact ⟨_, .unhashable parsed (entity.trans changeable), rfl⟩
  | untyped read noModel hashable =>
      rw [read] at parsed
      exact ⟨_, .untyped parsed (entity ▸ noModel) (entity ▸ hashable), rfl⟩
  | refused read typed refused =>
      rw [read] at parsed
      have isVerb := QueryName.verb_of_parse (named ▸ read)
      obtain ⟨again, refusedAgain, sameClass⟩ :=
        refused.withVerb (isVerb ▸ keeping) keepingOther
      exact ⟨again, .refused parsed (entity.trans typed) refusedAgain, sameClass⟩

/-- Methods that differ in the verb are compiled together or rejected alike. -/
theorem compile_verb (verb otherVerb : Verb) (rest : String) (named : method.name = verb.key ++ rest)
    (otherNamed : other.name = otherVerb.key ++ rest) (entity : other.entity = method.entity)
    (keeping : verb ∉ [Verb.delete, Verb.remove])
    (keepingOther : otherVerb ∉ [Verb.delete, Verb.remove]) :
    AgreeInClass (fun query alike => method.compile = .ok query ∧ other.compile = .ok alike ∧
      alike.name.verb = otherVerb ∧ query.AsksSame alike) method.compile other.compile := by
  cases compiled : method.compile with
  | error failure =>
      obtain ⟨again, rejected, sameClass⟩ := rejected_verb named otherNamed entity keeping
        keepingOther (compile_eq_error.mp compiled)
      rw [compile_eq_error.mpr rejected]
      exact .error sameClass
  | ok query =>
      obtain ⟨⟨read, typed, answerable⟩, -⟩ := compile_eq_ok_iff.mp compiled
      have parsed := QueryName.parse_verb verb otherVerb rest
      rw [← named, ← otherNamed, read] at parsed
      obtain ⟨alike, compiledOther, model, name⟩ := exists_compile_of_parse parsed
        (entity.trans typed) ⟨keepingOther, answerable.repeating, answerable.conjunctive,
          answerable.supported⟩
      rw [compiledOther]
      refine .ok ⟨rfl, rfl, ?_, model, ?_, ?_, ?_⟩
      all_goals rw [name]

end QueryMethod

namespace CompiledQuery

variable {method other : QueryMethod} {query alike : CompiledQuery} {arguments : List Datum}

theorem AsksSame.buildFails (same : query.AsksSame alike) {failure : Failure}
    (fails : query.name.BuildFails query.model method.name arguments failure) :
    ∃ again, alike.name.BuildFails alike.model other.name arguments again ∧
      again.failureClass = failure.failureClass := by
  have clauses : alike.name.clauses = query.name.clauses := congrArg List.flatten same.groups
  cases fails with
  | clause split before fails =>
      rw [← clauses] at split
      rw [← same.model] at before fails
      cases fails with
      | unknown absent => exact ⟨_, .clause split before (.unknown absent), rfl⟩
      | exhausted present takes => exact ⟨_, .clause split before (.exhausted present takes), rfl⟩
      | unwrapped present takes failed =>
          exact ⟨_, .clause split before (.unwrapped present takes failed), rfl⟩
  | order gives split before absent =>
      rw [← clauses, ← same.model] at gives
      rw [← same.orders] at split
      rw [← same.model] at before absent
      exact ⟨_, .order gives split before absent, rfl⟩

/-- Methods that ask for the same build the same queries or fail alike. -/
theorem AsksSame.build (same : query.AsksSame alike) (compiled : method.compile = .ok query)
    (compiledOther : other.compile = .ok alike) :
    AgreeInClass Eq (query.build arguments) (alike.build arguments) := by
  have clauses : alike.name.clauses = query.name.clauses := congrArg List.flatten same.groups
  cases bound : query.build arguments with
  | error failure =>
      obtain ⟨again, fails, sameClass⟩ := same.buildFails ((build_eq_error_iff compiled).mp bound)
      rw [(build_eq_error_iff compiledOther).mpr fails]
      exact .error sameClass
  | ok built =>
      obtain ⟨kind, filter, sorted, cut⟩ := (build_eq_ok_iff compiled).mp bound
      rw [← same.model] at kind filter sorted
      rw [← clauses] at filter
      rw [← same.orders] at sorted
      rw [← same.limit] at cut
      rw [(build_eq_ok_iff compiledOther).mpr ⟨kind, filter, sorted, cut⟩]
      exact .ok rfl

theorem raw_result_bind (settings : Settings) (backend : Backend) (query : CompiledQuery)
    (arguments : List Datum) :
    (query.raw settings backend arguments).result =
      (query.build arguments).bind fun built => (backend.answer built query.model).result := by
  rw [raw, Logged.result_bind, buildLogged_result]

theorem AsksSame.raw (same : query.AsksSame alike) (compiled : method.compile = .ok query)
    (compiledOther : other.compile = .ok alike) (settings : Settings) (backend : Backend)
    (arguments : List Datum) :
    AgreeInClass Eq (query.raw settings backend arguments).result
      (alike.raw settings backend arguments).result := by
  rw [raw_result_bind, raw_result_bind, same.model]
  refine (same.build compiled compiledOther).bind fun built _ isBuilt => ?_
  rw [← isBuilt]
  cases (backend.answer built query.model).result with
  | error failure => exact .error rfl
  | ok items => exact .ok rfl

/-- What a method finds is what another one that asks for the same shapes. -/
theorem AsksSame.execute {shape : List Item → Outcome} (same : query.AsksSame alike)
    (compiled : method.compile = .ok query) (compiledOther : other.compile = .ok alike)
    (shapes : ∀ items, alike.shaped items = .ok (shape items)) (settings : Settings)
    (backend : Backend) (arguments : List Datum) :
    AgreeInClass (fun items outcome => outcome = shape items)
      (query.raw settings backend arguments).result
      (alike.execute settings backend arguments).result := by
  have found := same.raw compiled compiledOther settings backend arguments
  rw [CompiledQuery.execute, Logged.result_bind]
  generalize (query.raw settings backend arguments).result = items at found
  generalize (alike.raw settings backend arguments).result = itemsAlike at found
  cases found with
  | error sameClass => exact .error sameClass
  | @ok items itemsAlike holds =>
      change AgreeInClass _ _ (alike.shaped itemsAlike)
      rw [shapes, ← holds]
      exact .ok rfl

end CompiledQuery

/-! ## Names that differ in the limit -/

namespace Store

variable {store : Store} {query : StructuredQuery} {model : Model} {records : List Record}

theorem select_limited (unlimited : query.limit = none) (selected : store.select query = .ok records)
    (n : Nat) :
    store.select { query with limit := some (Int.ofNat n) } = .ok (records.take n) := by
  obtain ⟨kind, filter, orders, limit⟩ := query
  obtain rfl : limit = none := unlimited
  rw [select_eq] at selected ⊢
  obtain ⟨met, filtered, selected⟩ := bind_eq_ok.mp selected
  obtain ⟨sorted, arranged, rfl⟩ := map_eq_ok.mp selected
  apply bind_eq_ok.mpr
  exact ⟨met, filtered, map_eq_ok.mpr ⟨sorted, arranged, rfl⟩⟩

theorem loadAll_take {entities : List Entity} (loaded : loadAll model records = .ok entities)
    (n : Nat) : loadAll model (records.take n) = .ok (entities.take n) :=
  mapM_eq_ok.mpr (List.forall₂_take n (mapM_eq_ok.mp loaded))

end Store

namespace CompiledQuery

variable {method other : QueryMethod} {query limited : CompiledQuery} {arguments : List Datum}
  {n : Nat}

theorem build_limited {built : StructuredQuery} (compiled : method.compile = .ok query)
    (compiledOther : other.compile = .ok limited) (model : limited.model = query.model)
    (name : limited.name = { query.name with limit := some n })
    (bound : query.build arguments = .ok built) :
    limited.build arguments = .ok { built with limit := some (Int.ofNat n) } := by
  obtain ⟨kind, filter, sorted, -⟩ := (build_eq_ok_iff compiled).mp bound
  apply (build_eq_ok_iff compiledOther).mpr
  rw [name, model]
  exact ⟨kind, filter, sorted, rfl⟩

theorem raw_limited {store : Store} {items : List Item} (settings : Settings)
    (compiled : method.compile = .ok query) (compiledOther : other.compile = .ok limited)
    (model : limited.model = query.model) (unlimited : query.name.limit = none)
    (name : limited.name = { query.name with limit := some n })
    (found : (query.raw settings (.store store) arguments).result = .ok items) :
    (limited.raw settings (.store store) arguments).result = .ok (items.take n) := by
  have answered := found
  rw [raw_result_bind] at answered
  obtain ⟨built, bound, -⟩ := bind_eq_ok.mp answered
  have noLimit := ((build_eq_ok_iff compiled).mp bound).limit
  rw [unlimited] at noLimit
  rw [raw_result settings bound] at found
  obtain ⟨entities, loaded, rfl⟩ := map_eq_ok.mp found
  obtain ⟨records, selected, loaded⟩ := bind_eq_ok.mp loaded
  rw [raw_result settings (build_limited compiled compiledOther model name bound),
    Store.select_limited noLimit selected n, model]
  apply map_eq_ok.mpr
  exact ⟨entities.take n, Store.loadAll_take loaded n, List.map_take⟩

end CompiledQuery

namespace QueryMethod

variable {find count occurs limited : QueryMethod} {rest : String}

theorem compile_limited {finds : CompiledQuery} {n : Nat} (named : find.name = "find" ++ rest)
    (entity : limited.entity = find.entity) (short : (toString n).length ≤ 4300)
    (compiled : find.compile = .ok finds) {c : Char} {tail : List Char}
    (chars : rest.toList = c :: tail)
    (spelled : c.isUpper = true ∧ limited.name = "findTop" ++ toString n ++ rest ∨
      c = '_' ∧ limited.name = "find_top_" ++ toString n ++ rest) :
    ∃ firsts, limited.compile = .ok firsts ∧ firsts.model = finds.model ∧
      firsts.name = { finds.name with limit := some n } := by
  obtain ⟨⟨read, typed, answerable⟩, -⟩ := compile_eq_ok_iff.mp compiled
  rw [named] at read
  have readLimited : QueryName.parse limited.name = .ok { finds.name with limit := some n } := by
    rcases spelled with ⟨upper, name⟩ | ⟨rfl, name⟩
    · rw [name]
      exact @QueryName.parse_camel_top .find rest n _ _ _ chars upper short read
    · rw [name]
      exact @QueryName.parse_snake_top .find rest n _ _ chars short read
  exact exists_compile_of_parse readLimited (entity.trans typed) ⟨answerable.keeping,
    answerable.repeating, answerable.conjunctive, answerable.supported⟩

/-- Names that differ in the verb or in a limit behind it. Finding, counting and asking for existence
are compiled together or rejected with failures of one class; and then the calls fail with failures
of one class, or counting gives the number of what is found and asking for existence says whether
there is anything. A limit that is put behind the verb cuts what is found without it. -/
theorem variations_agree (settings : Settings) (findName : find.name = "find" ++ rest)
    (countName : count.name = "count" ++ rest) (existsName : occurs.name = "exists" ++ rest)
    (countEntity : count.entity = find.entity) (existsEntity : occurs.entity = find.entity) :
    AgreeInClass (fun finds counts => ∀ backend arguments,
        AgreeInClass (fun items outcome => outcome = .count items.length)
          (finds.raw settings backend arguments).result
          (counts.execute settings backend arguments).result)
      find.compile count.compile ∧
    AgreeInClass (fun finds exist => ∀ backend arguments,
        AgreeInClass (fun items outcome => outcome = .exists !items.isEmpty)
          (finds.raw settings backend arguments).result
          (exist.execute settings backend arguments).result)
      find.compile occurs.compile ∧
    ∀ finds, find.compile = .ok finds → finds.name.limit = none →
      ∀ n : Nat, (toString n).length ≤ 4300 → ∀ limited : QueryMethod, limited.entity = find.entity →
        ∀ c tail, rest.toList = c :: tail →
          (c.isUpper = true ∧ limited.name = "findTop" ++ toString n ++ rest ∨
            c = '_' ∧ limited.name = "find_top_" ++ toString n ++ rest) →
          ∃ firsts, limited.compile = .ok firsts ∧ ∀ store arguments items,
            (finds.raw settings (.store store) arguments).result = .ok items →
            (firsts.raw settings (.store store) arguments).result = .ok (items.take n) := by
  refine ⟨?_, ?_, ?_⟩
  · refine (compile_verb .find .count rest findName countName countEntity (by decide)
      (by decide)).mono fun finds counts ⟨compiled, compiledCount, verb, same⟩ => ?_
    refine same.execute compiled compiledCount (fun items => ?_) settings
    simp [CompiledQuery.shaped, CompiledQuery.shape, verb, ResultShape.ofVerb]
  · refine (compile_verb .find .exists rest findName existsName existsEntity (by decide)
      (by decide)).mono fun finds exist ⟨compiled, compiledExists, verb, same⟩ => ?_
    refine same.execute compiled compiledExists (fun items => ?_) settings
    simp [CompiledQuery.shaped, CompiledQuery.shape, verb, ResultShape.ofVerb]
  · intro finds compiled unlimited n short limited entity c tail chars spelled
    obtain ⟨firsts, compiledLimited, model, name⟩ :=
      compile_limited findName entity short compiled chars spelled
    refine ⟨firsts, compiledLimited, fun store arguments items found => ?_⟩
    exact CompiledQuery.raw_limited settings compiled compiledLimited model unlimited name found

/-- The books with titles behind a text. -/
def booksBehind : CompiledQuery :=
  { method := "findByTitleGreaterThan"
    model := bookModel
    projection := none
    name := ⟨.find, false, none, [[⟨"title", .greaterThan⟩]], []⟩
    clauses := [(⟨"title", .greaterThan⟩, .compares .greater)] }

/-- Two books are counted, and the limited method finds the first of them. -/
theorem variations_agree_books :
    ∃ counts firsts,
      compile ⟨"countByTitleGreaterThan", .model bookModel, none⟩ = .ok counts ∧
      compile ⟨"findTop1ByTitleGreaterThan", .model bookModel, none⟩ = .ok firsts ∧
      (counts.execute {} (.store bookStore) [.text "a"]).result =
        .ok (.count 2) ∧
      (firsts.raw {} (.store bookStore) [.text "a"]).result =
        .ok [.entity ⟨bookModel, [("title", .text "b"), ("rating", .integer 2)]⟩] := by
  have parsed : QueryName.parse booksBehind.method = .ok booksBehind.name := by
    decide +kernel
  let find : QueryMethod := ⟨booksBehind.method, .model bookModel, none⟩
  let count : QueryMethod := ⟨"countByTitleGreaterThan", .model bookModel, none⟩
  let occurs : QueryMethod := ⟨"existsByTitleGreaterThan", .model bookModel, none⟩
  let limited : QueryMethod := ⟨"findTop1ByTitleGreaterThan", .model bookModel, none⟩
  have compiled : find.compile = .ok booksBehind := by
    rw [compile, parsed]
    rfl
  have found : (booksBehind.raw {} (.store bookStore) [.text "a"]).result =
      .ok [.entity ⟨bookModel, [("title", .text "b"), ("rating", .integer 2)]⟩,
        .entity ⟨bookModel, [("title", .text "c"), ("rating", .integer 3)]⟩] := by
    rfl
  obtain ⟨counting, -, limiting⟩ := @variations_agree find count occurs "ByTitleGreaterThan" {}
    (by decide +kernel) (by decide +kernel) (by decide +kernel) rfl rfl
  obtain ⟨firsts, compiledLimited, cuts⟩ := limiting booksBehind compiled rfl 1 (by decide)
    limited rfl 'B' "yTitleGreaterThan".toList (by decide +kernel)
    (.inl ⟨by decide, by decide +kernel⟩)
  rw [compiled] at counting
  cases compiledCount : count.compile with
  | error failure =>
      rw [compiledCount] at counting
      exact nomatch counting
  | ok counts =>
      rw [compiledCount] at counting
      cases counting with
      | ok agree =>
          have counted := agree (.store bookStore) [.text "a"]
          rw [found] at counted
          generalize outcome : (counts.execute {} (.store bookStore)
            [.text "a"]).result = answer at counted
          cases counted with
          | ok isCount =>
              refine ⟨counts, firsts, rfl, compiledLimited, ?_, cuts _ _ _ found⟩
              rw [outcome, isCount]
              rfl

end QueryMethod

end DerivedQuery
