import DerivedQuery.Proofs.Value.SortKey
import DerivedQuery.Proofs.Value.Wrap

/-!
# Parts of values

A value has parts: itself, and the parts of its elements or properties. Wrapping gives just those
values that name the properties of every part apart, also where the data contained values that were
wrapped before.
-/

set_option autoImplicit false

namespace DerivedQuery

namespace Value

/-- A value has no parts but itself, or it is a list or an entity. -/
theorem nested_induction {motive : Value → Prop}
    (single : ∀ value : Value, value.type ∉ [ValueType.entity, .list] → motive value)
    (list : ∀ elements : List Value, (∀ element ∈ elements, motive element) →
      motive (.list elements))
    (entity : ∀ properties : List (String × Value), (∀ entry ∈ properties, motive entry.2) →
      motive (.entity properties))
    (value : Value) : motive value := by
  have leaf {value : Value} (type : value.type ∉ [ValueType.entity, .list]) := single value type
  refine @Value.rec motive (fun properties => ∀ entry ∈ properties, motive entry.2)
    (fun elements => ∀ element ∈ elements, motive element) (fun entry => motive entry.2)
    (leaf (by decide)) (fun _ => leaf (by simp [type])) (fun _ => leaf (by simp [type]))
    (fun _ => leaf (by simp [type])) (fun _ => leaf (by simp [type]))
    (fun _ => leaf (by simp [type])) (fun _ => leaf (by simp [type])) entity list
    (fun _ member => nomatch member) ?_ (fun _ member => nomatch member) ?_ (fun _ _ here => here)
    value
  · exact fun first rest here later => List.forall_mem_cons.mpr ⟨here, later⟩
  · exact fun first rest here later => List.forall_mem_cons.mpr ⟨here, later⟩

/-- A value inside another at any depth, or this value itself. -/
inductive PartOf (part : Value) : Value → Prop
  | self : PartOf part part
  | element {elements : List Value} {element : Value} (member : element ∈ elements)
      (inside : PartOf part element) : PartOf part (.list elements)
  | property {properties : List (String × Value)} {entry : String × Value}
      (member : entry ∈ properties) (inside : PartOf part entry.2) :
      PartOf part (.entity properties)

/-- A value all of whose parts have a property. -/
def EveryPart (holds : Value → Prop) (value : Value) : Prop :=
  ∀ part : Value, part.PartOf value → holds part

/-- If the value is an entity, its properties have different names. -/
def NamesApart : Value → Prop
  | .entity properties => (properties.map Prod.fst).Nodup
  | _ => True

/-- No part of the value is a NaN. -/
def NanFree (value : Value) : Prop := value.EveryPart Orderable

variable {holds : Value → Prop} {value : Value} {elements : List Value}
  {properties : List (String × Value)}

theorem EveryPart.self (every : value.EveryPart holds) : holds value := every value .self

theorem everyPart_single_iff (single : value.type ∉ [ValueType.entity, .list]) :
    value.EveryPart holds ↔ holds value := by
  refine ⟨EveryPart.self, fun here part inside => ?_⟩
  cases inside with
  | self => exact here
  | element _ _ => exact absurd single (by simp [type])
  | property _ _ => exact absurd single (by simp [type])

theorem everyPart_list_iff :
    (list elements).EveryPart holds ↔
      holds (list elements) ∧ ∀ element ∈ elements, element.EveryPart holds := by
  constructor
  · intro every
    exact ⟨every.self, fun element member part inside => every part (.element member inside)⟩
  · intro ⟨here, each⟩ part inside
    cases inside with
    | self => exact here
    | element member inside => exact each _ member part inside

theorem everyPart_entity_iff :
    (entity properties).EveryPart holds ↔
      holds (entity properties) ∧ ∀ entry ∈ properties, entry.2.EveryPart holds := by
  constructor
  · intro every
    exact ⟨every.self, fun entry member part inside => every part (.property member inside)⟩
  · intro ⟨here, each⟩ part inside
    cases inside with
    | self => exact here
    | property member inside => exact each _ member part inside

end Value

/-- A store value inside the datum at any depth, wrapped before. -/
inductive Datum.Holds (value : Value) : Datum → Prop
  | wrapped : Holds value (.wrapped value)
  | item {items : List Datum} {item : Datum} (member : item ∈ items) (inside : Holds value item) :
      Holds value (.list items)
  | component {items : List Datum} {item : Datum} (member : item ∈ items)
      (inside : Holds value item) : Holds value (.tuple items)
  | entry {entries : List (Datum × Datum)} {entry : Datum × Datum} (member : entry ∈ entries)
      (inside : Holds value entry.2) : Holds value (.dict entries)

/-- A value that wrapping gives, of data in which every store value was made by wrapping, too. -/
inductive Value.Wrapped : Value → Prop
  | wrap {datum : Datum} {value : Value}
      (inside : ∀ held : Value, datum.Holds held → Value.Wrapped held)
      (wrapped : datum.wrap = .ok value) : Value.Wrapped value

open Value in
mutual

theorem Datum.everyPart_namesApart : (datum : Datum) →
    (∀ held : Value, datum.Holds held → held.EveryPart NamesApart) →
      {value : Value} → datum.wrap = .ok value → value.EveryPart NamesApart
  | .dict entries, held, _, wrapped => by
      rw [Datum.wrap] at wrapped
      obtain ⟨named, isNamed, isEntity⟩ := bind_eq_ok.mp wrapped
      obtain rfl := Except.ok.inj isEntity
      refine everyPart_entity_iff.mpr ⟨Dictionary.nodup_ofEntries named, fun entry member => ?_⟩
      exact everyPart_namesApart_entries entries (fun entry member value inside =>
        held value (.entry member inside)) isNamed entry (Dictionary.mem_ofEntries member)
  | .list items, held, _, wrapped => by
      rw [Datum.wrap] at wrapped
      obtain ⟨elements, isElements, isList⟩ := bind_eq_ok.mp wrapped
      obtain rfl := Except.ok.inj isList
      refine everyPart_list_iff.mpr ⟨trivial, ?_⟩
      exact everyPart_namesApart_items items (fun item member value inside =>
        held value (.item member inside)) isElements
  | .tuple items, held, _, wrapped => by
      rw [Datum.wrap] at wrapped
      obtain ⟨elements, isElements, isList⟩ := bind_eq_ok.mp wrapped
      obtain rfl := Except.ok.inj isList
      refine everyPart_list_iff.mpr ⟨trivial, ?_⟩
      exact everyPart_namesApart_items items (fun item member value inside =>
        held value (.component member inside)) isElements
  | .wrapped inner, held, _, wrapped => by
      obtain rfl := Except.ok.inj wrapped
      exact held inner .wrapped
  | .moment m, _, _, wrapped => by
      unfold Datum.wrap at wrapped
      split at wrapped
      · obtain rfl := Except.ok.inj wrapped
        exact (everyPart_single_iff (by simp [Value.type])).mpr trivial
      · exact nomatch wrapped
  | .foreign _, _, _, wrapped | .record _ _, _, _, wrapped => nomatch wrapped
  | .null, _, _, wrapped | .boolean _, _, _, wrapped | .integer _, _, _, wrapped
  | .double _, _, _, wrapped | .text _, _, _, wrapped | .bytes _, _, _, wrapped
  | .buffer _, _, _, wrapped => by
      obtain rfl := Except.ok.inj wrapped
      exact (everyPart_single_iff (by simp [Value.type])).mpr trivial

theorem everyPart_namesApart_items : (items : List Datum) →
    (∀ item ∈ items, ∀ held : Value, item.Holds held → held.EveryPart NamesApart) →
      {elements : List Value} → wrapItems items = .ok elements →
        ∀ element ∈ elements, element.EveryPart NamesApart
  | [], _, _, wrapped => by
      obtain rfl := Except.ok.inj wrapped
      exact fun _ member => nomatch member
  | item :: rest, held, _, wrapped => by
      rw [wrapItems] at wrapped
      obtain ⟨value, isValue, wrapped⟩ := bind_eq_ok.mp wrapped
      obtain ⟨values, areValues, isCons⟩ := bind_eq_ok.mp wrapped
      obtain rfl := Except.ok.inj isCons
      intro element member
      rcases List.mem_cons.mp member with rfl | member
      · exact item.everyPart_namesApart (held item List.mem_cons_self) isValue
      · exact everyPart_namesApart_items rest (fun other inside =>
          held other (List.mem_cons_of_mem _ inside)) areValues element member

theorem everyPart_namesApart_entries : (entries : List (Datum × Datum)) →
    (∀ entry ∈ entries, ∀ held : Value, entry.2.Holds held → held.EveryPart NamesApart) →
      {properties : List (String × Value)} → wrapEntries entries = .ok properties →
        ∀ entry ∈ properties, entry.2.EveryPart NamesApart
  | [], _, _, wrapped => by
      obtain rfl := Except.ok.inj wrapped
      exact fun _ member => nomatch member
  | (key, item) :: rest, held, _, wrapped => by
      rw [wrapEntries] at wrapped
      obtain ⟨name, -, wrapped⟩ := bind_eq_ok.mp wrapped
      obtain ⟨value, isValue, wrapped⟩ := bind_eq_ok.mp wrapped
      obtain ⟨values, areValues, isCons⟩ := bind_eq_ok.mp wrapped
      obtain rfl := Except.ok.inj isCons
      intro entry member
      rcases List.mem_cons.mp member with rfl | member
      · exact item.everyPart_namesApart (held (key, item) List.mem_cons_self) isValue
      · exact everyPart_namesApart_entries rest (fun other inside =>
          held other (List.mem_cons_of_mem _ inside)) areValues entry member

end

theorem wrapItems_wrapped (elements : List Value) :
    wrapItems (elements.map Datum.wrapped) = .ok elements := by
  induction elements with
  | nil => rfl
  | cons element rest ih =>
      rw [List.map_cons, wrapItems, ih]
      rfl

theorem wrapEntries_wrapped (properties : List (String × Value)) :
    wrapEntries (properties.map fun entry => (.text entry.1, .wrapped entry.2)) =
      .ok properties := by
  induction properties with
  | nil => rfl
  | cons entry rest ih =>
      rw [List.map_cons, wrapEntries, ih]
      rfl

namespace Value

theorem Wrapped.namesApart {value : Value} (made : value.Wrapped) : value.EveryPart NamesApart := by
  induction made with
  | wrap _ wrapped ih => exact Datum.everyPart_namesApart _ ih wrapped

/-- Wrapping gives all values that name the properties of every part apart, and no other ones. -/
theorem wrapped_iff {value : Value} : value.Wrapped ↔ value.EveryPart NamesApart := by
  refine ⟨Wrapped.namesApart, fun apart => ?_⟩
  induction value using nested_induction with
  | single value single =>
      have plain {datum : Datum} (bare : ∀ held : Value, ¬ datum.Holds held)
          (wrapped : datum.wrap = .ok value) : value.Wrapped :=
        .wrap (fun held inside => absurd inside (bare held)) wrapped
      cases value with
      | null => exact @plain .null nofun rfl
      | boolean b => exact @plain (.boolean b) nofun rfl
      | long n => exact @plain (.integer n) nofun rfl
      | double d => exact @plain (.double d) nofun rfl
      | string s => exact @plain (.text s) nofun rfl
      | blob bytes => exact @plain (.bytes bytes) nofun rfl
      -- A moment without offset is read as UTC, so every timestamp comes of one.
      | timestamp t => exact @plain (.moment ⟨t, none⟩) nofun rfl
      | entity properties => exact absurd single (by simp [type])
      | list elements => exact absurd single (by simp [type])
  -- The elements and the properties, wrapped already, stand in the data as they are.
  | list elements ih =>
      obtain ⟨-, each⟩ := everyPart_list_iff.mp apart
      refine @Wrapped.wrap (.list (elements.map Datum.wrapped)) _ (fun held inside => ?_) ?_
      · cases inside with
        | item member inside =>
            obtain ⟨element, known, rfl⟩ := List.mem_map.mp member
            cases inside with
            | wrapped => exact ih _ known (each _ known)
      · rw [Datum.wrap, wrapItems_wrapped]
        rfl
  | entity properties ih =>
      obtain ⟨nodup, each⟩ := everyPart_entity_iff.mp apart
      refine @Wrapped.wrap (.dict (properties.map fun entry => (.text entry.1, .wrapped entry.2))) _
        (fun held inside => ?_) ?_
      · cases inside with
        | entry member inside =>
            obtain ⟨entry, known, rfl⟩ := List.mem_map.mp member
            cases inside with
            | wrapped => exact ih _ known (each _ known)
      · rw [Datum.wrap, wrapEntries_wrapped]
        exact congrArg (Except.ok ∘ entity) (Dictionary.ofEntries_of_nodup nodup)

end Value

end DerivedQuery
