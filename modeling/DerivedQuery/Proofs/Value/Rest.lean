import DerivedQuery.Proofs.Datum.Document
import DerivedQuery.Proofs.Dictionary
import DerivedQuery.Proofs.Text.Base64
import DerivedQuery.Proofs.Time.Iso
import DerivedQuery.Value.Rest

/-!
# Telling values by their documents

Two values have the same document exactly when they are alike: equal, but for the order of the
properties of entities at any depth. Every type has its own key, and the texts of integers, bytes
and timestamps tell these apart.
-/

set_option autoImplicit false

namespace DerivedQuery

mutual

/-- The values are equal, apart from the order of properties. -/
def Value.Alike : Value → Value → Prop
  | .entity properties, value => ∃ others, value = .entity others ∧ PropertiesAlike properties others
  | .list elements, value => ∃ others, value = .list others ∧ ElementsAlike elements others
  | leaf, value => value = leaf

/-- The elements are alike one by one. -/
def ElementsAlike : List Value → List Value → Prop
  | [], others => others = []
  | element :: elements, others =>
      ∃ other rest, others = other :: rest ∧ element.Alike other ∧ ElementsAlike elements rest

/-- In some order, the properties have the same names and alike values. -/
def PropertiesAlike : List (String × Value) → List (String × Value) → Prop
  | [], others => others = []
  | (name, value) :: properties, others =>
      ∃ other rest, others.Perm ((name, other) :: rest) ∧ value.Alike other ∧
        PropertiesAlike properties rest

end

/-! ## Texts of integers -/

theorem nat_repr_injective {m n : Nat} (same : m.repr = n.repr) : m = n := by
  have chars := congrArg String.toList same
  simp only [Nat.repr, String.toList_ofList] at chars
  rw [← Text.digitsValue_toDigits m, chars, Text.digitsValue_toDigits]

/-- No digit is a sign. -/
theorem nat_repr_ne_negative (m n : Nat) : m.repr ≠ "-" ++ n.repr := by
  intro same
  have chars := congrArg String.toList same
  simp only [Nat.repr, String.toList_ofList, String.toList_append] at chars
  have inside : '-' ∈ Nat.toDigits 10 m := by simp [chars]
  exact absurd (toDigits_isDigit m '-' inside) (by decide)

theorem int_toString_injective {a b : Int} (same : toString a = toString b) : a = b := by
  cases a with
  | ofNat m =>
      cases b with
      | ofNat n => exact congrArg Int.ofNat (nat_repr_injective same)
      | negSucc n => exact absurd same (nat_repr_ne_negative m (n + 1))
  | negSucc m =>
      cases b with
      | ofNat n => exact absurd same.symm (nat_repr_ne_negative n (m + 1))
      | negSucc n =>
          have chars := congrArg String.toList same
          change ("-" ++ (m + 1).repr).toList = ("-" ++ (n + 1).repr).toList at chars
          rw [String.toList_append, String.toList_append] at chars
          have digits := String.toList_injective (List.append_cancel_left chars)
          exact congrArg Int.negSucc (Nat.succ.inj (nat_repr_injective digits))

theorem restElements_eq_map (elements : List Value) :
    restElements elements = elements.map Value.rest := by
  induction elements with
  | nil => rfl
  | cons element elements ih => rw [restElements, ih, List.map_cons]

theorem restProperties_eq_map (properties : List (String × Value)) :
    restProperties properties = properties.map fun entry => (.text entry.1, entry.2.rest) := by
  induction properties with
  | nil => rfl
  | cons entry properties ih => rw [restProperties, ih, List.map_cons]

/-- The key under which a value of a type is written. -/
def ValueType.restKey : ValueType → String
  | .null => "nullValue"
  | .boolean => "booleanValue"
  | .long => "integerValue"
  | .double => "doubleValue"
  | .string => "stringValue"
  | .blob => "blobValue"
  | .timestamp => "timestampValue"
  | .entity => "entityValue"
  | .list => "arrayValue"

theorem ValueType.restKey_injective {type other : ValueType} (same : type.restKey = other.restKey) :
    type = other := by
  revert same
  cases type <;> cases other <;> decide

theorem Value.exists_rest (value : Value) :
    ∃ document, value.rest = .object [(value.type.restKey, document)] := by
  cases value <;> exact ⟨_, rfl⟩

/-- Values with the same document are of one type. -/
theorem Value.type_eq_of_rest {value other : Value} (same : value.rest.SameDocument other.rest) :
    other.type = value.type := by
  obtain ⟨document, isDocument⟩ := value.exists_rest
  obtain ⟨otherDocument, isOther⟩ := other.exists_rest
  rw [isDocument, isOther, sameDocument_tagged] at same
  exact ValueType.restKey_injective same.1

namespace Value

variable {value other : Value}

/-- Values without parts have the same document only if they are equal. -/
theorem eq_of_rest (leaf : value.type ∉ [ValueType.entity, .list])
    (same : value.rest.SameDocument other.rest) : other = value := by
  have type := type_eq_of_rest same
  cases value with
  | null =>
      cases other with
      | null => rfl
      | _ => exact nomatch type
  | boolean b =>
      cases other with
      | boolean c =>
          obtain ⟨-, documents⟩ := sameDocument_tagged.mp same
          exact congrArg Value.boolean (Datum.boolean.inj documents)
      | _ => exact nomatch type
  | long m =>
      cases other with
      | long n =>
          obtain ⟨-, documents⟩ := sameDocument_tagged.mp same
          exact congrArg Value.long (int_toString_injective (Datum.text.inj documents))
      | _ => exact nomatch type
  | double d =>
      cases other with
      | double e =>
          obtain ⟨-, documents⟩ := sameDocument_tagged.mp same
          exact congrArg Value.double (Datum.double.inj documents)
      | _ => exact nomatch type
  | string s =>
      cases other with
      | string t =>
          obtain ⟨-, documents⟩ := sameDocument_tagged.mp same
          exact congrArg Value.string (Datum.text.inj documents)
      | _ => exact nomatch type
  | blob bytes =>
      cases other with
      | blob others =>
          obtain ⟨-, documents⟩ := sameDocument_tagged.mp same
          exact congrArg Value.blob (Text.base64_injective (Datum.text.inj documents))
      | _ => exact nomatch type
  | timestamp s =>
      cases other with
      | timestamp t =>
          obtain ⟨-, documents⟩ := sameDocument_tagged.mp same
          exact congrArg Value.timestamp (Moment.text_ofUtc_injective (Datum.text.inj documents))
      | _ => exact nomatch type
  | entity properties => exact absurd leaf (by simp [Value.type])
  | list elements => exact absurd leaf (by simp [Value.type])

theorem alike_leaf (leaf : value.type ∉ [ValueType.entity, .list]) :
    value.Alike other ↔ other = value := by
  cases value with
  | entity properties => exact absurd leaf (by simp [Value.type])
  | list elements => exact absurd leaf (by simp [Value.type])
  | _ => exact Iff.rfl

theorem rest_leaf_iff (leaf : value.type ∉ [ValueType.entity, .list]) :
    value.rest.SameDocument other.rest ↔ value.Alike other := by
  rw [alike_leaf leaf]
  constructor
  · exact eq_of_rest leaf
  · rintro rfl
    exact Datum.sameDocument_refl _

theorem exists_entity_of_rest {properties : List (String × Value)}
    (same : (entity properties).rest.SameDocument other.rest) :
    ∃ others, other = .entity others ∧
      SameEntries (restProperties properties) (restProperties others) := by
  have type := type_eq_of_rest same
  cases other with
  | entity others =>
      obtain ⟨-, inner⟩ := sameDocument_tagged.mp same
      obtain ⟨-, entries, isEntries, alike⟩ := sameDocument_tagged.mp inner
      exact ⟨others, rfl, Datum.dict.inj isEntries ▸ alike⟩
  | _ => exact nomatch type

theorem exists_list_of_rest {elements : List Value}
    (same : (list elements).rest.SameDocument other.rest) :
    ∃ others, other = .list others ∧ SameItems (restElements elements) (restElements others) := by
  have type := type_eq_of_rest same
  cases other with
  | list others =>
      obtain ⟨-, inner⟩ := sameDocument_tagged.mp same
      obtain ⟨-, items, isItems, alike⟩ := sameDocument_tagged.mp inner
      exact ⟨others, rfl, Datum.list.inj isItems ▸ alike⟩
  | _ => exact nomatch type

end Value

mutual

/-- Values have the same document exactly when they are alike. -/
theorem Value.rest_iff : (value other : Value) →
    (value.rest.SameDocument other.rest ↔ value.Alike other)
  | .entity properties, other => by
      constructor
      · intro same
        obtain ⟨others, rfl, entries⟩ := Value.exists_entity_of_rest same
        exact ⟨others, rfl, (restProperties_iff properties others).mp entries⟩
      · rintro ⟨others, rfl, alike⟩
        apply sameDocument_tagged.mpr
        refine ⟨rfl, sameDocument_tagged.mpr ⟨rfl, _, rfl, ?_⟩⟩
        exact (restProperties_iff properties others).mpr alike
  | .list elements, other => by
      constructor
      · intro same
        obtain ⟨others, rfl, items⟩ := Value.exists_list_of_rest same
        exact ⟨others, rfl, (restElements_iff elements others).mp items⟩
      · rintro ⟨others, rfl, alike⟩
        apply sameDocument_tagged.mpr
        refine ⟨rfl, sameDocument_tagged.mpr ⟨rfl, _, rfl, ?_⟩⟩
        exact (restElements_iff elements others).mpr alike
  | .null, _ | .boolean _, _ | .long _, _ | .double _, _ | .string _, _ | .blob _, _
  | .timestamp _, _ => Value.rest_leaf_iff (by simp [Value.type])

theorem restElements_iff : (elements others : List Value) →
    (SameItems (restElements elements) (restElements others) ↔ ElementsAlike elements others)
  | [], others => by
      change restElements others = [] ↔ others = []
      rw [restElements_eq_map, List.map_eq_nil_iff]
  | element :: elements, others => by
      constructor
      · rintro ⟨document, documents, isOthers, here, later⟩
        cases others with
        | nil => exact nomatch isOthers
        | cons other others =>
            obtain ⟨rfl, rfl⟩ := List.cons.inj isOthers
            exact ⟨other, others, rfl, (Value.rest_iff element other).mp here,
              (restElements_iff elements others).mp later⟩
      · rintro ⟨other, others, rfl, here, later⟩
        exact ⟨_, _, rfl, (Value.rest_iff element other).mpr here,
          (restElements_iff elements others).mpr later⟩

theorem restProperties_iff : (properties others : List (String × Value)) →
    (SameEntries (restProperties properties) (restProperties others) ↔
      PropertiesAlike properties others)
  | [], others => by
      change restProperties others = [] ↔ others = []
      rw [restProperties_eq_map, List.map_eq_nil_iff]
  | (name, value) :: properties, others => by
      constructor
      · rintro ⟨document, documents, perm, here, later⟩
        rw [restProperties_eq_map] at perm
        obtain ⟨⟨otherName, other⟩, rest, found, isEntry, permRest⟩ := exists_of_map_perm_cons perm
        obtain ⟨isName, rfl⟩ := Prod.mk.inj isEntry
        obtain rfl := Datum.text.inj isName
        rw [← restProperties_eq_map] at permRest
        exact ⟨other, rest, found, (Value.rest_iff value other).mp here,
          (restProperties_iff properties rest).mp (later.perm permRest.symm)⟩
      · rintro ⟨other, rest, perm, here, later⟩
        refine ⟨other.rest, restProperties rest, ?_, (Value.rest_iff value other).mpr here,
          (restProperties_iff properties rest).mpr later⟩
        rw [restProperties_eq_map, restProperties_eq_map]
        exact perm.map _

end

/-! ## Properties under distinct names -/

/-- Entities with distinct names are alike when the same names have alike values. -/
theorem propertiesAlike_iff {properties others : List (String × Value)}
    (nodup : (properties.map Prod.fst).Nodup) (nodupOthers : (others.map Prod.fst).Nodup) :
    PropertiesAlike properties others ↔ ∀ name,
      Option.Rel Value.Alike (Dictionary.get? properties name) (Dictionary.get? others name) := by
  induction properties generalizing others with
  | nil =>
      constructor
      · intro alike
        obtain rfl : others = [] := alike
        exact fun name => .none
      · intro related
        cases others with
        | nil => rfl
        | cons other others =>
            have first := related other.1
            rw [Dictionary.get?_cons, if_pos rfl] at first
            exact nomatch first
  | cons entry properties ih =>
      obtain ⟨name, value⟩ := entry
      obtain ⟨absent, nodupRest⟩ := List.nodup_cons.mp nodup
      constructor
      · rintro ⟨other, rest, perm, here, later⟩ key
        have nodupFound := (perm.map Prod.fst).nodup_iff.mp nodupOthers
        rw [Dictionary.get?_perm nodupFound perm.symm, Dictionary.get?_cons, Dictionary.get?_cons]
        by_cases same : name = key
        · rw [if_pos same, if_pos same]
          exact .some here
        · rw [if_neg same, if_neg same]
          exact (ih nodupRest nodupFound.of_cons).mp later key
      · intro related
        have first := related name
        rw [Dictionary.get?_cons, if_pos rfl] at first
        cases found : Dictionary.get? others name with
        | none =>
            rw [found] at first
            exact nomatch first
        | some other =>
            rw [found, Option.rel_some_some] at first
            -- The property of this name is taken out of the others, wherever it stands.
            obtain ⟨front, back, rfl⟩ := List.append_of_mem (Dictionary.mem_of_get? found)
            have nodupFound : (((name, other) :: (front ++ back)).map Prod.fst).Nodup :=
              (List.perm_middle.map Prod.fst).nodup_iff.mp nodupOthers
            refine ⟨other, front ++ back, List.perm_middle, first, ?_⟩
            refine (ih nodupRest nodupFound.of_cons).mpr fun key => ?_
            have later := related key
            rw [Dictionary.get?_perm nodupFound List.perm_middle.symm, Dictionary.get?_cons,
              Dictionary.get?_cons] at later
            by_cases same : name = key
            · have absentFound := (List.nodup_cons.mp nodupFound).1
              subst same
              rw [Dictionary.get?_eq_none_iff.mpr absent,
                Dictionary.get?_eq_none_iff.mpr absentFound]
              exact .none
            · rwa [if_neg same, if_neg same] at later

end DerivedQuery
