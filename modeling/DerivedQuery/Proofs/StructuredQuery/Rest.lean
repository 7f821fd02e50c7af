import DerivedQuery.Proofs.Value.Rest
import DerivedQuery.Proofs.Value.Wrap
import DerivedQuery.StructuredQuery

/-!
# Telling queries by their documents

The document of a query identifies it: queries with the same document have the same kind, sort order
and limit, and filters that differ in the order of the properties of entities at most.
-/

set_option autoImplicit false

namespace DerivedQuery

namespace Filter

mutual

/-- The filters are equal, apart from the order of properties in their values. -/
def Alike : Filter → Filter → Prop
  | .property field comparison value, filter =>
      ∃ other, filter = .property field comparison other ∧ value.Alike other
  | .composite junction filters, filter =>
      ∃ others, filter = .composite junction others ∧ AlikeAll filters others

/-- The filters are alike one by one. -/
def AlikeAll : List Filter → List Filter → Prop
  | [], others => others = []
  | filter :: filters, others =>
      ∃ other rest, others = other :: rest ∧ filter.Alike other ∧ AlikeAll filters rest

end

theorem restAll_eq_map (filters : List Filter) : restAll filters = filters.map rest := by
  induction filters with
  | nil => rfl
  | cons filter filters ih => rw [restAll, ih, List.map_cons]

end Filter

theorem Comparison.name_injective {comparison other : Comparison}
    (same : comparison.name = other.name) : comparison = other := by
  revert same
  cases comparison <;> cases other <;> decide

theorem Direction.name_injective {direction other : Direction}
    (same : direction.name = other.name) : direction = other := by
  revert same
  cases direction <;> cases other <;> decide

section

variable {field otherField : String} {document other : Datum}

/-- The documents of comparisons are the same member by member. -/
theorem sameDocument_comparison {comparison otherComparison : String} :
    (Datum.object [("property", .object [("name", .text field)]), ("op", .text comparison),
        ("value", document)]).SameDocument
      (.object [("property", .object [("name", .text otherField)]), ("op", .text otherComparison),
        ("value", other)]) ↔
      otherField = field ∧ otherComparison = comparison ∧ document.SameDocument other := by
  change SameMembers _ _ ↔ _
  rw [sameMembers_cons (by simp), sameMembers_cons (by simp), sameMembers_cons (by simp),
    sameDocument_tagged]
  simp [Datum.SameDocument, sameMembers_nil]

theorem sameDocument_junction {junction otherJunction : String} {items others : List Datum} :
    (Datum.object [("op", .text junction), ("filters", .list items)]).SameDocument
      (.object [("op", .text otherJunction), ("filters", .list others)]) ↔
      otherJunction = junction ∧ SameItems items others := by
  change SameMembers _ _ ↔ _
  rw [sameMembers_cons (by simp), sameMembers_cons (by simp)]
  simp [Datum.SameDocument, sameMembers_nil]

end

mutual

theorem Filter.rest_iff : (filter other : Filter) →
    (filter.rest.SameDocument other.rest ↔ filter.Alike other)
  | .property field comparison value, other => by
      constructor
      · intro same
        cases other with
        | property otherField otherComparison otherValue =>
            obtain ⟨-, inner⟩ := sameDocument_tagged.mp same
            obtain ⟨rfl, name, documents⟩ := sameDocument_comparison.mp inner
            obtain rfl := Comparison.name_injective name
            exact ⟨otherValue, rfl, (value.rest_iff otherValue).mp documents⟩
        | composite junction filters =>
            exact absurd (sameDocument_tagged.mp same).1 (by decide)
      · rintro ⟨otherValue, rfl, alike⟩
        apply sameDocument_tagged.mpr
        refine ⟨rfl, sameDocument_comparison.mpr ⟨rfl, rfl, ?_⟩⟩
        exact (value.rest_iff otherValue).mpr alike
  | .composite junction filters, other => by
      constructor
      · intro same
        cases other with
        | property otherField otherComparison otherValue =>
            exact absurd (sameDocument_tagged.mp same).1 (by decide)
        | composite otherJunction others =>
            obtain ⟨-, inner⟩ := sameDocument_tagged.mp same
            obtain ⟨rfl, items⟩ := sameDocument_junction.mp inner
            exact ⟨others, rfl, (Filter.restAll_iff filters others).mp items⟩
      · rintro ⟨others, rfl, alike⟩
        apply sameDocument_tagged.mpr
        refine ⟨rfl, sameDocument_junction.mpr ⟨rfl, ?_⟩⟩
        exact (Filter.restAll_iff filters others).mpr alike

theorem Filter.restAll_iff : (filters others : List Filter) →
    (SameItems (Filter.restAll filters) (Filter.restAll others) ↔ Filter.AlikeAll filters others)
  | [], others => by
      change Filter.restAll others = [] ↔ others = []
      rw [Filter.restAll_eq_map, List.map_eq_nil_iff]
  | filter :: filters, others => by
      constructor
      · rintro ⟨document, documents, isOthers, here, later⟩
        cases others with
        | nil => exact nomatch isOthers
        | cons other others =>
            obtain ⟨rfl, rfl⟩ := List.cons.inj isOthers
            exact ⟨other, others, rfl, (Filter.rest_iff filter other).mp here,
              (Filter.restAll_iff filters others).mp later⟩
      · rintro ⟨other, others, rfl, here, later⟩
        exact ⟨_, _, rfl, (Filter.rest_iff filter other).mpr here,
          (Filter.restAll_iff filters others).mpr later⟩

end

namespace FieldOrder

theorem rest_iff {order other : FieldOrder} : order.rest.SameDocument other.rest ↔ other = order := by
  obtain ⟨field, direction⟩ := order
  obtain ⟨otherField, otherDirection⟩ := other
  change SameMembers _ _ ↔ _
  rw [sameMembers_cons (by simp), sameMembers_cons (by simp), sameDocument_tagged]
  constructor
  · rintro ⟨⟨-, fields⟩, directions, -⟩
    exact congrArg₂ FieldOrder.mk (Datum.text.inj fields)
      (Direction.name_injective (Datum.text.inj directions))
  · intro same
    obtain ⟨rfl, rfl⟩ := FieldOrder.mk.inj same
    exact ⟨⟨rfl, rfl⟩, rfl, sameMembers_nil⟩

theorem restAll_iff {orders others : List FieldOrder} :
    SameItems (orders.map rest) (others.map rest) ↔ others = orders := by
  induction orders generalizing others with
  | nil => simp [SameItems]
  | cons order orders ih =>
      cases others with
      | nil => simp [SameItems]
      | cons other others =>
          rw [List.map_cons, List.map_cons, SameItems, List.cons.injEq, ← rest_iff, ← ih]
          constructor
          · rintro ⟨document, documents, isOthers, here, later⟩
            obtain ⟨rfl, rfl⟩ := List.cons.inj isOthers
            exact ⟨here, later⟩
          · rintro ⟨here, later⟩
            exact ⟨_, _, rfl, here, later⟩

/-- The document of a sort order, where there is one. -/
def restAll? (orders : List FieldOrder) : Option Datum :=
  if orders.isEmpty then none else some (.list (orders.map rest))

theorem restAll?_iff {orders others : List FieldOrder} :
    Option.Rel Datum.SameDocument (restAll? orders) (restAll? others) ↔ others = orders := by
  cases orders with
  | nil =>
      cases others with
      | nil => simp [restAll?]
      | cons other others => simp [restAll?]
  | cons order orders =>
      cases others with
      | nil => simp [restAll?]
      | cons other others =>
          rw [← restAll_iff]
          simp [restAll?, Datum.SameDocument]

end FieldOrder

namespace StructuredQuery

/-- The members of the document of a query, of which the last three may be left out. -/
def members (kind : Datum) (filter orders limit : Option Datum) : List (String × Datum) :=
  ("kind", kind) :: ((filter.map fun d => ("filter", d)).toList ++
    ((orders.map fun d => ("order", d)).toList ++
      ((limit.map fun d => ("limit", d)).toList ++ [])))

theorem sameMembers_members {kind otherKind : Datum}
    {filter otherFilter orders otherOrders limit otherLimit : Option Datum} :
    SameMembers (members kind filter orders limit)
        (members otherKind otherFilter otherOrders otherLimit) ↔
      kind.SameDocument otherKind ∧ Option.Rel Datum.SameDocument filter otherFilter ∧
        Option.Rel Datum.SameDocument orders otherOrders ∧
        Option.Rel Datum.SameDocument limit otherLimit := by
  have absent (key other : String) (different : key ≠ other) (document : Option Datum) :
      key ∉ ((document.map fun d => (other, d)).toList).map Prod.fst := by
    cases document <;> simp [different]
  rw [members, members, sameMembers_cons, sameMembers_option, sameMembers_option,
    sameMembers_option (by simp) (by simp)]
  · simp [sameMembers_nil]
  all_goals simp (disch := decide) only [List.map_append, List.mem_append, absent, List.map_nil,
    List.not_mem_nil, or_self, not_false_eq_true]

/-- The queries are equal, apart from the order of properties in the values of their filters. -/
structure Alike (query other : StructuredQuery) : Prop where
  kind : other.kind = query.kind
  filter : Option.Rel Filter.Alike query.filter other.filter
  orders : other.orders = query.orders
  limit : other.limit = query.limit

theorem rest_eq (query : StructuredQuery) : query.rest = .object (members
    (.list [.object [("name", .text query.kind)]]) (query.filter.map Filter.rest)
    (FieldOrder.restAll? query.orders) (query.limit.map Datum.integer)) := by
  obtain ⟨kind, filter, orders, limit⟩ := query
  cases filter <;> cases orders <;> cases limit <;> rfl

theorem sameDocument_kind {kind other : String} :
    (Datum.list [.object [("name", .text kind)]]).SameDocument
      (.list [.object [("name", .text other)]]) ↔ other = kind := by
  simp [Datum.SameDocument, SameItems, sameDocument_tagged]

theorem rel_filter_iff {filter other : Option Filter} :
    Option.Rel Datum.SameDocument (filter.map Filter.rest) (other.map Filter.rest) ↔
      Option.Rel Filter.Alike filter other := by
  cases filter <;> cases other <;> simp [Filter.rest_iff]

theorem rel_limit_iff {limit other : Option Int} :
    Option.Rel Datum.SameDocument (limit.map Datum.integer) (other.map Datum.integer) ↔
      other = limit := by
  cases limit <;> cases other <;> simp [Datum.SameDocument]

theorem rest_iff {query other : StructuredQuery} :
    query.rest.SameDocument other.rest ↔ query.Alike other := by
  rw [rest_eq, rest_eq]
  refine sameMembers_members.trans ?_
  rw [sameDocument_kind, rel_filter_iff, FieldOrder.restAll?_iff, rel_limit_iff]
  constructor
  · rintro ⟨kind, filter, orders, limit⟩
    exact ⟨kind, filter, orders, limit⟩
  · rintro ⟨kind, filter, orders, limit⟩
    exact ⟨kind, filter, orders, limit⟩

/-- The document of a query identifies it. Two queries have the same document exactly when they are
alike: of one kind, with the same sort order and the same limit, each of which may be absent, and
with filters that are equal apart from the order of properties, as entities with distinct names,
such as dictionaries are wrapped to, are alike exactly when the same names have alike values. A query
can therefore be decoded, whatever the order of the members of its document. -/
theorem rest_identifies :
    (∀ query other : StructuredQuery, query.rest.SameDocument other.rest ↔ query.Alike other) ∧
    (∀ properties others : List (String × Value), (properties.map Prod.fst).Nodup →
      (others.map Prod.fst).Nodup → ((Value.entity properties).Alike (.entity others) ↔
        ∀ name, Option.Rel Value.Alike (Dictionary.get? properties name)
          (Dictionary.get? others name))) ∧
    (∀ entries properties, (Datum.dict entries).wrap = .ok (.entity properties) →
      (properties.map Prod.fst).Nodup) ∧
    ∃ decode : Datum → Option StructuredQuery, ∀ (query : StructuredQuery) (document : Datum),
      query.rest.SameDocument document → ∃ again ∈ decode document, query.Alike again := by
  refine ⟨fun query other => rest_iff, ?_, fun _ _ wrapped => nodup_of_wrap wrapped, ?_⟩
  · intro properties others nodup nodupOthers
    rw [← propertiesAlike_iff nodup nodupOthers]
    constructor
    · rintro ⟨found, isFound, alike⟩
      rwa [Value.entity.inj isFound]
    · exact fun alike => ⟨others, rfl, alike⟩
  · classical
    refine ⟨fun document => if found : ∃ query : StructuredQuery, query.rest.SameDocument document
      then some found.choose else none, fun query document same => ?_⟩
    -- Any query with this document will do, as all of them are alike.
    have found : ∃ again : StructuredQuery, again.rest.SameDocument document := ⟨query, same⟩
    refine ⟨found.choose, by simp [found], rest_iff.mp ?_⟩
    have back := Datum.sameDocument_symm _ _ found.choose_spec
    exact Datum.sameDocument_trans _ _ _ same back

/-- A query for books by an author, whose name is stored in parts. -/
def byAuthor (parts : List (String × Value)) (limit : Option Int) : StructuredQuery where
  kind := "Book"
  filter := some (.property "author" .equal (.entity parts))
  limit := limit

/-- The order of the parts of a name does not show in the document, and a limit of zero does. -/
theorem rest_identifies_author :
    (byAuthor [("first", .string "Ursula"), ("last", .string "Le Guin")] none).rest.SameDocument
      (byAuthor [("last", .string "Le Guin"), ("first", .string "Ursula")] none).rest ∧
    ¬(byAuthor [("first", .string "Ursula")] none).rest.SameDocument
      (byAuthor [("first", .string "Ursula")] (some 0)).rest := by
  constructor
  · have alike : (Value.entity [("first", .string "Ursula"), ("last", .string "Le Guin")]).Alike
        (.entity [("last", .string "Le Guin"), ("first", .string "Ursula")]) := by
      refine (rest_identifies.2.1 _ _ (by simp) (by simp)).mpr fun name => ?_
      rw [Dictionary.get?_perm (by simp) (.swap _ _ [])]
      simp only [Dictionary.get?_cons]
      split_ifs with first last
      · exact .some rfl
      · exact .some rfl
      · exact .none
    exact (rest_identifies.1 _ _).mpr ⟨rfl, .some ⟨_, rfl, alike⟩, rfl, rfl⟩
  · intro same
    have limits := ((rest_identifies.1 _ _).mp same).limit
    simp [byAuthor] at limits

end StructuredQuery

end DerivedQuery
