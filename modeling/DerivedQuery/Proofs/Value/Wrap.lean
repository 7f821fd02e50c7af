import DerivedQuery.Proofs.Dictionary
import DerivedQuery.Proofs.Passes
import DerivedQuery.Value.Wrap

/-!
# What wrapping gives

Data cannot be wrapped for three reasons only, at any depth: an object without a store type, a
moment outside the calendar in UTC, or a key that has no text. What dictionaries are wrapped to has
distinct names.
-/

set_option autoImplicit false

namespace DerivedQuery

/-- The failures of wrapping. -/
inductive Failure.OfWrapping : Failure → Prop
  | unsupported (typeName : String) : OfWrapping (.unsupportedType typeName)
  | outOfRange : OfWrapping .momentOutOfRange
  | unwritten : OfWrapping .unwrittenInteger

namespace Datum

variable {key : Datum} {name : String} {failure : Failure}

@[simp] theorem keyText_text (s : String) : (text s).keyText = .ok s := rfl

theorem keyText_eq_ok : key.keyText = .ok name ↔
    key.shownIntegers.any Numeral.isTooLong = false ∧ key.plainText = name := by
  unfold keyText
  cases key.shownIntegers.any Numeral.isTooLong
  · exact ⟨fun made => ⟨rfl, Except.ok.inj made⟩, fun made => congrArg Except.ok made.2⟩
  · exact ⟨nofun, fun made => nomatch made.1⟩

theorem keyText_eq_error : key.keyText = .error failure ↔
    key.shownIntegers.any Numeral.isTooLong = true ∧ .unwrittenInteger = failure := by
  unfold keyText
  cases key.shownIntegers.any Numeral.isTooLong
  · exact ⟨nofun, fun failed => nomatch failed.1⟩
  · exact ⟨fun failed => ⟨rfl, Except.error.inj failed⟩, fun failed => congrArg Except.error failed.2⟩

end Datum

mutual

theorem Datum.ofWrapping : (datum : Datum) → {failure : Failure} →
    datum.wrap = .error failure → failure.OfWrapping
  | .moment m, _, failed => by
      unfold Datum.wrap at failed
      split at failed
      · exact nomatch failed
      · obtain rfl := Except.error.inj failed
        exact .outOfRange
  | .dict entries, _, failed => by
      rw [Datum.wrap] at failed
      rcases bind_eq_error.mp failed with failed | ⟨_, _, contra⟩
      · exact ofWrapping_entries entries failed
      · exact nomatch contra
  | .list items, _, failed | .tuple items, _, failed => by
      rw [Datum.wrap] at failed
      rcases bind_eq_error.mp failed with failed | ⟨_, _, contra⟩
      · exact ofWrapping_items items failed
      · exact nomatch contra
  | .foreign _, _, failed | .record _ _, _, failed => by
      rw [Datum.wrap] at failed
      obtain rfl := Except.error.inj failed
      exact .unsupported _
  | .null, _, failed | .boolean _, _, failed | .integer _, _, failed | .double _, _, failed
  | .text _, _, failed | .bytes _, _, failed | .buffer _, _, failed | .wrapped _, _, failed => by
      rw [Datum.wrap] at failed
      exact nomatch failed

theorem ofWrapping_items : (items : List Datum) → {failure : Failure} →
    wrapItems items = .error failure → failure.OfWrapping
  | [], _, failed => by
      rw [wrapItems] at failed
      exact nomatch failed
  | item :: rest, _, failed => by
      rw [wrapItems] at failed
      rcases bind_eq_error.mp failed with failed | ⟨_, _, failed⟩
      · exact Datum.ofWrapping item failed
      · rcases bind_eq_error.mp failed with failed | ⟨_, _, contra⟩
        · exact ofWrapping_items rest failed
        · exact nomatch contra

theorem ofWrapping_entries : (entries : List (Datum × Datum)) → {failure : Failure} →
    wrapEntries entries = .error failure → failure.OfWrapping
  | [], _, failed => by
      rw [wrapEntries] at failed
      exact nomatch failed
  | (key, item) :: rest, _, failed => by
      rw [wrapEntries] at failed
      rcases bind_eq_error.mp failed with failed | ⟨_, _, failed⟩
      · obtain ⟨-, rfl⟩ := Datum.keyText_eq_error.mp failed
        exact .unwritten
      rcases bind_eq_error.mp failed with failed | ⟨_, _, failed⟩
      · exact Datum.ofWrapping item failed
      · rcases bind_eq_error.mp failed with failed | ⟨_, _, contra⟩
        · exact ofWrapping_entries rest failed
        · exact nomatch contra

end

/-! ## Data whose whole numbers can be written -/

/-- Every whole number in the datum has few enough digits to be written. -/
def Datum.Writable (datum : Datum) : Prop := datum.shownIntegers.any Numeral.isTooLong = false

namespace Datum

private theorem any_append_eq_false {left right : List Int} :
    (left ++ right).any Numeral.isTooLong = false ↔
      left.any Numeral.isTooLong = false ∧ right.any Numeral.isTooLong = false := by
  rw [List.any_append, Bool.or_eq_false_iff]

mutual

/-- Keys without texts are the only data with numbers that cannot be written. -/
theorem wrap_ne_unwritten : (datum : Datum) → datum.Writable → datum.wrap ≠ .error .unwrittenInteger
  | .dict entries, writable, failed => by
      rw [wrap] at failed
      rcases bind_eq_error.mp failed with failed | ⟨_, _, contra⟩
      · exact wrapEntries_ne_unwritten entries (by simpa only [Writable, shownIntegers] using writable)
          failed
      · exact nomatch contra
  | .list items, writable, failed | .tuple items, writable, failed => by
      rw [wrap] at failed
      rcases bind_eq_error.mp failed with failed | ⟨_, _, contra⟩
      · exact wrapItems_ne_unwritten items (by simpa only [Writable, shownIntegers] using writable)
          failed
      · exact nomatch contra
  | .moment m, _, failed => by
      rw [wrap] at failed
      split at failed <;> exact nomatch failed
  | .null, _, failed | .boolean _, _, failed | .integer _, _, failed | .double _, _, failed
  | .text _, _, failed | .bytes _, _, failed | .buffer _, _, failed | .wrapped _, _, failed
  | .foreign _, _, failed | .record _ _, _, failed => by
      rw [wrap] at failed
      exact nomatch failed

theorem wrapItems_ne_unwritten : (items : List Datum) →
    (shownByItems items).any Numeral.isTooLong = false →
    wrapItems items ≠ .error .unwrittenInteger
  | [], _, failed => by
      rw [wrapItems] at failed
      exact nomatch failed
  | item :: rest, writable, failed => by
      rw [shownByItems, any_append_eq_false] at writable
      rw [wrapItems] at failed
      rcases bind_eq_error.mp failed with failed | ⟨_, _, failed⟩
      · exact wrap_ne_unwritten item writable.1 failed
      rcases bind_eq_error.mp failed with failed | ⟨_, _, contra⟩
      · exact wrapItems_ne_unwritten rest writable.2 failed
      · exact nomatch contra

theorem wrapEntries_ne_unwritten : (entries : List (Datum × Datum)) →
    (shownByEntries entries).any Numeral.isTooLong = false →
    wrapEntries entries ≠ .error .unwrittenInteger
  | [], _, failed => by
      rw [wrapEntries] at failed
      exact nomatch failed
  | (key, item) :: rest, writable, failed => by
      rw [shownByEntries, any_append_eq_false, any_append_eq_false] at writable
      obtain ⟨⟨ofKey, ofItem⟩, ofRest⟩ := writable
      rw [wrapEntries] at failed
      rcases bind_eq_error.mp failed with failed | ⟨_, _, failed⟩
      · exact Bool.false_ne_true (ofKey.symm.trans (keyText_eq_error.mp failed).1)
      rcases bind_eq_error.mp failed with failed | ⟨_, _, failed⟩
      · exact wrap_ne_unwritten item ofItem failed
      rcases bind_eq_error.mp failed with failed | ⟨_, _, contra⟩
      · exact wrapEntries_ne_unwritten rest ofRest failed
      · exact nomatch contra

end

end Datum

theorem nodup_of_wrap {entries : List (Datum × Datum)} {properties : List (String × Value)}
    (wrapped : (Datum.dict entries).wrap = .ok (.entity properties)) :
    (properties.map Prod.fst).Nodup := by
  rw [Datum.wrap] at wrapped
  obtain ⟨named, -, isEntity⟩ := bind_eq_ok.mp wrapped
  obtain rfl := Value.entity.inj (Except.ok.inj isEntity)
  exact Dictionary.nodup_ofEntries named

end DerivedQuery
