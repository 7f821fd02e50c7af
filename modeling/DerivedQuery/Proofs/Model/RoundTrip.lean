import DerivedQuery.Model.Catalog
import DerivedQuery.Model.Mapping
import DerivedQuery.Proofs.Dictionary

/-!
# Saving and loading

What the class of a model makes of data is its own matter. Where it stores the values of the fields
under their keys and reads each field from the data under its key, an entity whose record is read
again is the same entity, if no two fields share a key. Queries then find every property under the
key that the mapping names. Models that do what their fields say are such models.
-/

set_option autoImplicit false

namespace DerivedQuery

mutual

/-- There are no objects with fields inside the datum, neither store values nor any other. -/
def Datum.IsPlain : Datum → Prop
  | .wrapped _ | .record _ _ => False
  | .list items => ItemsPlain items
  | .tuple items => ItemsPlain items
  | .dict entries => EntriesPlain entries
  | _ => True

/-- There are no objects with fields inside the elements. -/
def ItemsPlain : List Datum → Prop
  | [] => True
  | item :: rest => Datum.IsPlain item ∧ ItemsPlain rest

/-- There are no objects with fields inside the entries. -/
def EntriesPlain : List (Datum × Datum) → Prop
  | [] => True
  | (_, item) :: rest => Datum.IsPlain item ∧ EntriesPlain rest

end

mutual

/-- Just the data without objects with fields are stored as they are. -/
theorem Datum.stored_eq_iff : (datum : Datum) → (datum.stored = datum ↔ datum.IsPlain)
  | .wrapped _ | .record _ _ => by simp [Datum.stored, Datum.object, Datum.IsPlain]
  | .list items => by
      rw [Datum.stored, Datum.list.injEq, Datum.IsPlain, storedItems_eq_iff items]
  | .tuple items => by
      rw [Datum.stored, Datum.tuple.injEq, Datum.IsPlain, storedItems_eq_iff items]
  | .dict entries => by
      rw [Datum.stored, Datum.dict.injEq, Datum.IsPlain, storedEntries_eq_iff entries]
  | .null | .boolean _ | .integer _ | .double _ | .text _ | .bytes _ | .buffer _ | .moment _
  | .foreign _ => by simp only [Datum.stored, Datum.IsPlain]

theorem storedItems_eq_iff : (items : List Datum) → (storedItems items = items ↔ ItemsPlain items)
  | [] => by simp only [storedItems, ItemsPlain]
  | item :: rest => by
      rw [storedItems, List.cons.injEq, ItemsPlain, Datum.stored_eq_iff item,
        storedItems_eq_iff rest]

theorem storedEntries_eq_iff :
    (entries : List (Datum × Datum)) → (storedEntries entries = entries ↔ EntriesPlain entries)
  | [] => by simp only [storedEntries, EntriesPlain]
  | (key, item) :: rest => by
      rw [storedEntries, List.cons.injEq, Prod.mk.injEq, EntriesPlain, Datum.stored_eq_iff item,
        storedEntries_eq_iff rest, and_iff_right rfl]

end

/-! ## What is assumed of the class of a model -/

namespace Model

/-- The model stores what is written of each value under the key of its field, the later of two
under one key. Of a plain datum the datum itself is written. -/
structure DumpsByAlias (model : Model) : Prop where
  dump : ∀ values : List (String × Datum), values.map Prod.fst = model.fields.map Field.name →
    ∃ written : Field → Datum,
      model.dump values = .ok (Dictionary.ofEntries
        (model.fields.map fun field => (field.storageKey, written field))) ∧
      ∀ field ∈ model.fields, ∀ datum, Dictionary.get? values field.name = some datum →
        datum.IsPlain → written field = datum

end Model

namespace Model

variable {id : Nat} {name : String} {kind : Option String} {fields ownFields : List Field}
  {ancestors : List Nat}

end Model

/-! ## Entities and their records -/

/-- The model keeps its fields apart: their names differ, no alias is empty, and no two of them are
stored under one key. -/
structure Model.KeepsApart (model : Model) : Prop where
  names : (model.fields.map Field.name).Nodup
  aliases : ∀ field ∈ model.fields, field.storedAs ≠ some ""
  keys : (model.fields.map Field.storageKey).Nodup

/-- The entity is one of the model and has a value for each of its fields. -/
structure Entity.IsOf (entity : Entity) (model : Model) : Prop where
  model_eq : entity.model = model
  names : entity.values.map Prod.fst = model.fields.map Field.name

/-- Each field takes its value in the entity as it is, and no object with fields is inside. -/
structure Entity.Fits (model : Model) (entity : Entity) : Prop extends entity.IsOf model where
  accepted : ∀ field ∈ model.fields, ∀ datum, entity.get? field.name = some datum →
    field.check datum = .ok datum
  plain : ∀ entry ∈ entity.values, entry.2.IsPlain

theorem Field.queryKey_eq {field : Field} (named : field.storedAs ≠ some "") :
    field.queryKey = field.storageKey := by
  obtain ⟨name, type, optional, storedAs, fallback⟩ := field
  cases storedAs with
  | none =>
      by_cases empty : name = "" <;> simp [queryKey, storageKey, empty]
  | some key =>
      have nonempty : key ≠ "" := fun empty => named (by rw [empty])
      simp [queryKey, storageKey, nonempty]

namespace Entity

variable {model : Model} {entity : Entity}

/-- The record of an entity, empty where it cannot be made. -/
def record (entity : Entity) : Record := (entity.model.dump entity.values).toOption.getD []

/-- The record holds every plain value under the storage key of its field, where no two fields share
a key. -/
theorem IsOf.dump_eq (dumps : model.DumpsByAlias)
    (keys : (model.fields.map Field.storageKey).Nodup) (ofModel : entity.IsOf model) :
    entity.model.dump entity.values = .ok entity.record ∧
      ∀ field ∈ model.fields, ∀ datum, entity.get? field.name = some datum →
        datum.IsPlain → Dictionary.get? entity.record field.storageKey = some datum := by
  obtain ⟨rfl, names⟩ := ofModel
  obtain ⟨written, dumped, same⟩ := dumps.dump entity.values names
  have isRecord : entity.record = Dictionary.ofEntries
      (entity.model.fields.map fun field => (field.storageKey, written field)) := by
    rw [record, dumped]
    rfl
  have nodup : ((entity.model.fields.map fun field =>
      (field.storageKey, written field)).map Prod.fst).Nodup := by
    simpa [Function.comp_def] using keys
  refine ⟨isRecord ▸ dumped, fun field member datum found plain => ?_⟩
  rw [isRecord, Dictionary.ofEntries_of_nodup nodup, ← same field member datum found plain]
  exact Dictionary.get?_of_mem nodup (List.mem_map_of_mem member)

theorem Fits.get?_eq (fits : entity.Fits model) {field : Field} (member : field ∈ model.fields) :
    ∃ datum, entity.get? field.name = some datum ∧ field.check datum = .ok datum ∧
      datum.IsPlain := by
  have isKey : field.name ∈ entity.values.map Prod.fst :=
    fits.names ▸ List.mem_map_of_mem member
  obtain ⟨datum, found⟩ := Option.isSome_iff_exists.mp (Dictionary.isSome_get?.mpr isKey)
  exact ⟨datum, found, fits.accepted field member datum found,
    fits.plain _ (Dictionary.mem_of_get? found)⟩

theorem Fits.get?_record (apart : model.KeepsApart) (dumps : model.DumpsByAlias)
    (fits : entity.Fits model) {field : Field} (member : field ∈ model.fields) :
    Dictionary.get? entity.record field.storageKey = entity.get? field.name := by
  obtain ⟨datum, found, -, plain⟩ := fits.get?_eq member
  rw [(fits.toIsOf.dump_eq dumps apart.keys).2 field member datum found plain, found]

/-- The record holds the value of every property under the key that queries use. -/
theorem Fits.get?_fieldName (apart : model.KeepsApart) (dumps : model.DumpsByAlias)
    (fits : entity.Fits model) {property key : String}
    (named : model.fieldName property = .ok key) :
    ∃ datum, entity.get? property = some datum ∧
      Dictionary.get? entity.record key = some datum := by
  have found : Dictionary.get? model.queryKeys property = some key := by
    unfold Model.fieldName at named
    split at named
    · rename_i other found
      rw [found, Except.ok.inj named]
    · cases named
  obtain ⟨field, member, same⟩ := List.mem_map.mp (Dictionary.mem_of_get? found)
  obtain ⟨rfl, rfl⟩ := Prod.mk.inj same
  obtain ⟨datum, isValue, -⟩ := fits.get?_eq member
  rw [Field.queryKey_eq (apart.aliases field member), fits.get?_record apart dumps member]
  exact ⟨datum, isValue, isValue⟩

end Entity

end DerivedQuery
