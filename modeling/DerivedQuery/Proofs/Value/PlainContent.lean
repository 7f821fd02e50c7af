import DerivedQuery.Proofs.Number.Exact
import DerivedQuery.Proofs.Time.Calendar
import DerivedQuery.Proofs.Value.Part

/-!
# What equality sees of a value

The content of an integer, a double or a truth value is a number, that of a timestamp an instant,
that of a list the contents of its elements in order, and that of an entity the contents of its
properties by their names. Where there is no NaN, plain data are equal when they have one content.
-/

set_option autoImplicit false

namespace DerivedQuery

/-- What values hold apart from their types. A NaN holds no number. -/
inductive PlainContent where
  | nothing
  | number (number : Option ExtendedRational)
  | text (s : String)
  | bytes (bytes : List UInt8)
  | instant (microseconds : Nat)
  | sequence (elements : List PlainContent)
  | mapping (find? : String → Option PlainContent)

namespace Value

mutual

/-- What a value holds. -/
def plainContent : Value → PlainContent
  | .null => .nothing
  | .boolean b => .number (some (if b then 1 else 0))
  | .long n => .number (some ((n : ℚ) : WithTop ℚ))
  | .double d => .number d.number?
  | .string s => .text s
  | .blob bytes => .bytes bytes
  | .timestamp t => .instant t.sinceStart
  | .entity properties => .mapping (plainContentUnder? properties)
  | .list elements => .sequence (plainContents elements)

/-- What the elements of a list hold. -/
def plainContents : List Value → List PlainContent
  | [] => []
  | element :: rest => element.plainContent :: plainContents rest

/-- What the property of a name holds. -/
def plainContentUnder? : List (String × Value) → String → Option PlainContent
  | [] => fun _ => none
  | (name, value) :: rest => fun key =>
      if name = key then some value.plainContent else plainContentUnder? rest key

end

variable {a b c value stored : Value} {elements others : List Value}
  {properties : List (String × Value)}

theorem plainContents_eq_map (elements : List Value) :
    plainContents elements = elements.map plainContent := by
  induction elements with
  | nil => rfl
  | cons element rest ih => rw [plainContents, ih, List.map_cons]

theorem plainContentUnder?_eq_map (properties : List (String × Value)) :
    plainContentUnder? properties =
      fun key => (Dictionary.get? properties key).map plainContent := by
  induction properties with
  | nil => rfl
  | cons entry rest ih =>
      funext key
      simp only [plainContentUnder?, ih, Dictionary.get?_cons]
      split_ifs <;> rfl

theorem plainContent_list_iff :
    (list elements).plainContent = (list others).plainContent ↔
      elements.map plainContent = others.map plainContent := by
  rw [plainContent, plainContent, PlainContent.sequence.injEq, plainContents_eq_map,
    plainContents_eq_map]

theorem plainContent_entity_iff {properties others : List (String × Value)} :
    (entity properties).plainContent = (entity others).plainContent ↔ ∀ key,
      (Dictionary.get? properties key).map plainContent =
        (Dictionary.get? others key).map plainContent := by
  rw [plainContent, plainContent, PlainContent.mapping.injEq, plainContentUnder?_eq_map,
    plainContentUnder?_eq_map, funext_iff]

/-! ## Values without parts -/

/-- The value counts as a number when plain data are compared. -/
def Counts (value : Value) : Prop := value.type ∈ [ValueType.boolean, .long, .double]

theorem plainContent_of_counts (counts : value.Counts) :
    value.plainContent = .number (value.quantity?.map Quantity.number) := by
  cases value with
  | boolean b => cases b <;> simp [plainContent, quantity?, Quantity.number_ofInt]
  | long n => simp [plainContent, quantity?, Quantity.number_ofInt]
  | double d => simp [plainContent, quantity?, Double.number?_eq_map]
  | _ => exact absurd counts (by simp [Counts, type])

theorem exists_quantity (counts : value.Counts) (number : value.Orderable) :
    ∃ quantity, value.quantity? = some quantity := by
  cases value with
  | boolean b => exact ⟨_, rfl⟩
  | long n => exact ⟨_, rfl⟩
  | double d => exact Double.quantity?_of_ne_nan fun nan => number (congrArg double nan)
  | _ => exact absurd counts (by simp [Counts, type])

theorem plainEqual_of_counts (counts : a.Counts) (countsOther : b.Counts) :
    a.plainEqual b = true ↔
      ∃ quantity, a.quantity? = some quantity ∧ b.quantity? = some quantity := by
  generalize quantityA : a.quantity? = first, quantityB : b.quantity? = second
  have decided : a.plainEqual b = (first.bind fun x => second.map fun y => x == y).getD false := by
    cases a with
    | boolean | long | double =>
        cases b with
        | boolean | long | double =>
            cases first <;> cases second <;> simp [plainEqual, quantityA, quantityB]
        | _ => exact absurd countsOther (by simp [Counts, type])
    | _ => exact absurd counts (by simp [Counts, type])
  rw [decided]
  cases first with
  | none => simp
  | some x =>
      cases second with
      | none => simp
      | some y =>
          simp only [Option.bind_some, Option.map_some, Option.getD_some, beq_iff_eq,
            Option.some.injEq, exists_eq_left']
          exact eq_comm

theorem plainEqual_iff_of_counts (counts : a.Counts) (countsOther : b.Counts)
    (number : b.Orderable) : a.plainEqual b = true ↔ a.plainContent = b.plainContent := by
  obtain ⟨quantity, isQuantity⟩ := exists_quantity countsOther number
  rw [plainEqual_of_counts counts countsOther, plainContent_of_counts counts,
    plainContent_of_counts countsOther, PlainContent.number.injEq, isQuantity, Option.map_some,
    Option.map_eq_some_iff]
  constructor
  · intro ⟨same, isSame, isOther⟩
    exact ⟨same, isSame, congrArg _ (Option.some.inj isOther).symm⟩
  · intro ⟨other, isOther, numbers⟩
    exact ⟨quantity, Quantity.number_injective numbers ▸ isOther, rfl⟩

theorem plainEqual_iff_of_single (single : a.type ∉ [ValueType.entity, .list])
    (number : b.Orderable) : a.plainEqual b = true ↔ a.plainContent = b.plainContent := by
  cases a with
  | entity properties => exact absurd single (by simp [type])
  | list elements => exact absurd single (by simp [type])
  | null => cases b <;> simp [plainEqual, plainContent, quantity?]
  | string s => cases b <;> simp [plainEqual, plainContent, quantity?]
  | blob bytes => cases b <;> simp [plainEqual, plainContent, quantity?]
  | timestamp s =>
      cases b with
      | timestamp t =>
          rw [plainEqual, beq_iff_eq, plainContent, plainContent, PlainContent.instant.injEq]
          exact ⟨congrArg DateTime.sinceStart, DateTime.sinceStart_injective⟩
      | _ => simp [plainEqual, plainContent, quantity?]
  | double d =>
      cases b with
      | boolean | long | double =>
          exact plainEqual_iff_of_counts (by simp [Counts, type]) (by simp [Counts, type]) number
      | _ => cases counted : d.quantity? <;> simp [plainEqual, plainContent, quantity?, counted]
  | boolean | long =>
      cases b with
      | boolean | long | double =>
          exact plainEqual_iff_of_counts (by simp [Counts, type]) (by simp [Counts, type]) number
      | _ => simp [plainEqual, plainContent, quantity?]

/-! ## Lists and entities -/

theorem plainEqual_list_iff :
    (list elements).plainEqual b = true ↔
      ∃ others, b = .list others ∧ plainEqualElements elements others = true := by
  cases b <;> simp [plainEqual, quantity?]

theorem plainEqual_entity_iff :
    (entity properties).plainEqual b = true ↔ ∃ others, b = .entity others ∧
      properties.length = others.length ∧ plainEqualProperties properties others = true := by
  cases b <;> simp [plainEqual, quantity?]

theorem exists_list_of_plainContent (same : (list elements).plainContent = b.plainContent) :
    ∃ others, b = .list others := by
  cases b <;> simp [plainContent] at same ⊢

theorem exists_entity_of_plainContent (same : (entity properties).plainContent = b.plainContent) :
    ∃ others, b = .entity others := by
  cases b <;> simp [plainContent] at same ⊢

theorem plainEqualProperties_iff {others : List (String × Value)} :
    plainEqualProperties properties others = true ↔ ∀ entry ∈ properties, ∃ other,
      Dictionary.get? others entry.1 = some other ∧ entry.2.plainEqual other = true := by
  induction properties with
  | nil => simp [plainEqualProperties]
  | cons entry rest ih =>
      rw [plainEqualProperties, Bool.and_eq_true, ih, List.forall_mem_cons]
      refine and_congr_left fun _ => ?_
      cases Dictionary.get? others entry.1 <;> simp

theorem plainEqualElements_iff
    (each : ∀ element ∈ elements, ∀ other ∈ others,
      (element.plainEqual other = true ↔ element.plainContent = other.plainContent)) :
    plainEqualElements elements others = true ↔
      elements.map plainContent = others.map plainContent := by
  induction elements generalizing others with
  | nil => cases others <;> simp [plainEqualElements]
  | cons element rest ih =>
      cases others with
      | nil => simp [plainEqualElements]
      | cons other others =>
          have later := ih fun e member o memberOther =>
            each e (List.mem_cons_of_mem _ member) o (List.mem_cons_of_mem _ memberOther)
          rw [plainEqualElements, Bool.and_eq_true, later,
            each element List.mem_cons_self other List.mem_cons_self, List.map_cons, List.map_cons,
            List.cons.injEq]

/-- Every part of the value names its properties apart and is no NaN. -/
def Regular (value : Value) : Prop := value.EveryPart fun part => part.NamesApart ∧ part.Orderable

/-- The plain data of regular values are equal when the values have one content. -/
theorem plainEqual_iff_plainContent (regular : a.Regular) (regularOther : b.Regular) :
    a.plainEqual b = true ↔ a.plainContent = b.plainContent := by
  induction a using nested_induction generalizing b with
  | single value single => exact plainEqual_iff_of_single single regularOther.self.2
  | list elements ih =>
      cases b with
      | list others =>
          obtain ⟨-, each⟩ := everyPart_list_iff.mp regular
          obtain ⟨-, eachOther⟩ := everyPart_list_iff.mp regularOther
          rw [plainEqual, plainContent_list_iff]
          exact plainEqualElements_iff fun element member other memberOther =>
            ih element member (each element member) (eachOther other memberOther)
      | _ => simp [plainEqual, plainContent, quantity?]
  | entity properties ih =>
      cases b with
      | entity others =>
          obtain ⟨⟨nodup, -⟩, each⟩ := everyPart_entity_iff.mp regular
          obtain ⟨⟨nodupOther, -⟩, eachOther⟩ := everyPart_entity_iff.mp regularOther
          -- On both sides every property has a counterpart under its name; no name is left over,
          -- because the names on each side are different and equally many.
          rw [plainEqual, Bool.and_eq_true, beq_iff_eq, plainEqualProperties_iff,
            plainContent_entity_iff, Dictionary.map_get?_eq_iff nodup nodupOther]
          refine and_congr_right fun _ => forall₂_congr fun entry member => ?_
          refine exists_congr fun other => and_congr_right fun found => ?_
          exact ih entry member (each entry member) (eachOther _ (Dictionary.mem_of_get? found))
      | _ => simp [plainEqual, plainContent, quantity?]

theorem plainEqualElements_of_plainContent {others further : List Value}
    (each : ∀ element ∈ elements, ∀ other ∈ others, ∀ last ∈ further,
      other.plainContent = last.plainContent → element.plainEqual other = true →
        element.plainEqual last = true)
    (same : others.map plainContent = further.map plainContent)
    (equal : plainEqualElements elements others = true) :
    plainEqualElements elements further = true := by
  induction elements generalizing others further with
  | nil => cases others <;> cases further <;> simp_all [plainEqualElements]
  | cons element rest ih =>
      cases others with
      | nil => simp [plainEqualElements] at equal
      | cons other others =>
          cases further with
          | nil => simp at same
          | cons last further =>
              obtain ⟨sameHere, sameLater⟩ := List.cons.inj same
              rw [plainEqualElements, Bool.and_eq_true] at equal ⊢
              refine ⟨each element List.mem_cons_self other List.mem_cons_self last
                List.mem_cons_self sameHere equal.1, ih ?_ sameLater equal.2⟩
              exact fun e member o memberOther l memberLast =>
                each e (List.mem_cons_of_mem _ member) o (List.mem_cons_of_mem _ memberOther) l
                  (List.mem_cons_of_mem _ memberLast)

/-- Any value, regular or not, equals both or neither of two regular values of one content. -/
theorem plainEqual_of_plainContent (regular : a.Regular) (regularOther : b.Regular)
    (same : a.plainContent = b.plainContent) (equal : stored.plainEqual a = true) :
    stored.plainEqual b = true := by
  -- The stored value need not have the content of the two; the induction is on its own parts.
  induction stored using nested_induction generalizing a b with
  | single value single =>
      rw [plainEqual_iff_of_single single regular.self.2] at equal
      rw [plainEqual_iff_of_single single regularOther.self.2]
      exact equal.trans same
  | list elements ih =>
      obtain ⟨others, rfl, equalElements⟩ := plainEqual_list_iff.mp equal
      obtain ⟨further, rfl⟩ := exists_list_of_plainContent same
      obtain ⟨-, each⟩ := everyPart_list_iff.mp regular
      obtain ⟨-, eachOther⟩ := everyPart_list_iff.mp regularOther
      refine plainEqual_list_iff.mpr ⟨further, rfl, ?_⟩
      refine plainEqualElements_of_plainContent ?_ (plainContent_list_iff.mp same) equalElements
      exact fun element member other memberOther last memberLast =>
        ih element member (each other memberOther) (eachOther last memberLast)
  | entity properties ih =>
      obtain ⟨others, rfl, lengths, equalProperties⟩ := plainEqual_entity_iff.mp equal
      obtain ⟨further, rfl⟩ := exists_entity_of_plainContent same
      obtain ⟨⟨nodup, -⟩, each⟩ := everyPart_entity_iff.mp regular
      obtain ⟨⟨nodupOther, -⟩, eachOther⟩ := everyPart_entity_iff.mp regularOther
      obtain ⟨lengthsOther, counterparts⟩ :=
        (Dictionary.map_get?_eq_iff nodup nodupOther plainContent).mp
          (plainContent_entity_iff.mp same)
      refine plainEqual_entity_iff.mpr ⟨further, rfl, lengths.trans lengthsOther, ?_⟩
      rw [plainEqualProperties_iff] at equalProperties ⊢
      intro entry member
      obtain ⟨other, found, equalOther⟩ := equalProperties entry member
      have inside := Dictionary.mem_of_get? found
      obtain ⟨last, foundLast, sameLast⟩ := counterparts _ inside
      have insideLast := Dictionary.mem_of_get? foundLast
      exact ⟨last, foundLast,
        ih entry member (each _ inside) (eachOther _ insideLast) sameLast equalOther⟩

/-! ## Equality of type and content -/

theorem sameProperties_iff {others : List (String × Value)} :
    sameProperties properties others = true ↔ ∀ entry ∈ properties, ∃ other,
      Dictionary.get? others entry.1 = some other ∧ entry.2.same other = true := by
  induction properties with
  | nil => simp [sameProperties]
  | cons entry rest ih =>
      rw [sameProperties, Bool.and_eq_true, ih, List.forall_mem_cons]
      refine and_congr_left fun _ => ?_
      cases Dictionary.get? others entry.1 <;> simp

theorem plainEqualElements_of_same
    (each : ∀ element ∈ elements, ∀ other : Value, element.same other = true →
      element.plainEqual other = true)
    (same : sameElements elements others = true) : plainEqualElements elements others = true := by
  induction elements generalizing others with
  | nil => cases others <;> simp_all [sameElements, plainEqualElements]
  | cons element rest ih =>
      cases others with
      | nil => simp [sameElements] at same
      | cons other others =>
          rw [sameElements, Bool.and_eq_true] at same
          rw [plainEqualElements, Bool.and_eq_true]
          exact ⟨each element List.mem_cons_self other same.1,
            ih (fun e member => each e (List.mem_cons_of_mem _ member)) same.2⟩

theorem plainEqual_of_same (same : a.same b = true) : a.plainEqual b = true := by
  induction a using nested_induction generalizing b with
  | single value single =>
      cases value with
      | entity properties => exact absurd single (by simp [type])
      | list elements => exact absurd single (by simp [type])
      | _ => cases b <;> simp_all [Value.same, plainEqual, quantity?, Double.numericEqual]
  | list elements ih =>
      cases b with
      | list others =>
          rw [Value.same] at same
          rw [plainEqual]
          exact plainEqualElements_of_same (fun element member other => ih element member) same
      | _ => simp [Value.same] at same
  | entity properties ih =>
      cases b with
      | entity others =>
          rw [Value.same, Bool.and_eq_true, sameProperties_iff] at same
          rw [plainEqual, Bool.and_eq_true, plainEqualProperties_iff]
          refine ⟨same.1, fun entry member => ?_⟩
          obtain ⟨other, found, sameOther⟩ := same.2 entry member
          exact ⟨other, found, ih entry member sameOther⟩
      | _ => simp [Value.same] at same

theorem rank_eq_of_same (same : a.same b = true) : a.rank = b.rank := by
  cases a <;> cases b <;> simp [Value.same] at same <;> rfl

end Value

end DerivedQuery
