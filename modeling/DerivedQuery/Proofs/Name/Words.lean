import DerivedQuery.Name.Property
import DerivedQuery.Proofs.Name.Scan

/-!
# Words have letters

No word of a name is empty, and so is no property that words spell.
-/

set_option autoImplicit false

namespace DerivedQuery

theorem ofList_ne_empty {cs : List Char} (nonempty : cs ≠ []) : String.ofList cs ≠ "" := by
  simpa using nonempty

private theorem text_ne_of_mem_wordsOfPieces {started : Bool} {pieces : List (List Char)}
    {word : Word} (member : word ∈ wordsOfPieces started pieces) : word.text ≠ "" := by
  induction pieces generalizing started with
  | nil => simp [wordsOfPieces] at member
  | cons piece pieces ih =>
      unfold wordsOfPieces at member
      split at member
      · exact ih member
      · rename_i first others scanned
        have nonempty : ∀ cs ∈ first :: others, cs ≠ [] := fun cs inside =>
          ne_nil_of_mem_scan (scanned ▸ inside)
        simp only [List.cons_append, List.mem_cons, List.mem_append, List.mem_map] at member
        rcases member with rfl | ⟨cs, inside, rfl⟩ | member
        · exact ofList_ne_empty (nonempty first (by simp))
        · exact ofList_ne_empty (nonempty cs (by simp [inside]))
        · exact ih member

/-- No word of a name is empty. -/
theorem text_ne_of_mem_splitWords {name : String} {word : Word} (member : word ∈ splitWords name) :
    word.text ≠ "" := by
  unfold splitWords at member
  split at member
  · obtain ⟨cs, inside, rfl⟩ := List.mem_map.mp member
    exact ofList_ne_empty (ne_nil_of_mem_scan inside)
  · exact text_ne_of_mem_wordsOfPieces member

namespace Text

theorem smallForm_ne_nil (c : Char) : smallForm c ≠ [] := by
  unfold smallForm
  split
  · exact List.cons_ne_nil _ _
  · split
    · exact List.cons_ne_nil _ _
    · split <;> exact List.cons_ne_nil _ _

end Text

theorem decapitalizeChars_ne_nil {cs : List Char} (nonempty : cs ≠ []) :
    decapitalizeChars cs ≠ [] := by
  match cs with
  | [] => exact absurd rfl nonempty
  | [c] => exact Text.smallForm_ne_nil c
  | c :: d :: rest =>
      rw [decapitalizeChars]
      split <;> simp

/-- No property that words spell is empty. -/
theorem joinProperty_ne_empty {style : NameStyle} {words : List Word} (nonempty : words ≠ [])
    (spelled : ∀ word ∈ words, word.text ≠ "") : joinProperty style words ≠ "" := by
  have joined : joinWords words ≠ "" := by
    cases words with
    | nil => exact absurd rfl nonempty
    | cons first others => simp [joinWords, spelled first (by simp)]
  cases style with
  | snake => exact joined
  | camel => exact ofList_ne_empty (decapitalizeChars_ne_nil (by simpa using joined))

end DerivedQuery
