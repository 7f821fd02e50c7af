import DerivedQuery.Name.Property
import DerivedQuery.Proofs.Name.Camel

/-!
# Properties in camel style

A property is written with a capital in front and read back without it, unless it starts with an
acronym. Its words are the same in both forms but for the case of the first letter.
-/

set_option autoImplicit false

namespace DerivedQuery

/-- A text with a capital in front. -/
def capitalizeChars : List Char → List Char
  | [] => []
  | c :: rest => c.toUpper :: rest

def capitalize (text : String) : String := String.ofList (capitalizeChars text.toList)

theorem toList_joinWords (first : Word) (others : List Word) :
    (joinWords (first :: others)).toList = first.text.toList ++
      others.flatMap fun word => word.joiner.toList ++ word.text.toList := by
  simp [joinWords, String.toList_join, List.flatMap_map]

theorem Word.key_ofList {cs : List Char} (ascii : ∀ c ∈ cs, IsAscii c) (joiner : String) :
    Word.key ⟨String.ofList cs, joiner⟩ = String.ofList (cs.map Char.toLower) :=
  Text.lower_of_isAscii ascii

theorem map_toLower {cs : List Char} (lower : ∀ c ∈ cs, c.isLower = true) :
    cs.map Char.toLower = cs := by
  have small : ∀ c ∈ cs, c.toLower = c := fun c member =>
    (toUpper_of_isAlpha (isAlpha_of_isLower (lower c member))).2.2.2 (lower c member)
  rw [List.map_congr_left small, List.map_id']

theorem key_of_small {cs : List Char} (lower : ∀ c ∈ cs, c.isLower = true) (joiner : String) :
    Word.key ⟨String.ofList cs, joiner⟩ = String.ofList cs := by
  rw [Word.key_ofList fun c member => isAscii_of_isLower (lower c member), map_toLower lower]

/-- The words of a capitalized text are joined to the text without the capital. -/
theorem joinProperty_camelWords {cs : List Char} (nonempty : cs ≠ [])
    (alphanum : ∀ c ∈ cs, c.isAlphanum = true) :
    camelWords cs ≠ [] ∧
      joinProperty .camel (camelWords cs) = decapitalize (String.ofList cs) := by
  have spelled := flatMap_camelWords alphanum
  have joiners : ∀ word ∈ camelWords cs, word.joiner = "" := by
    intro word member
    obtain ⟨piece, -, rfl⟩ := List.mem_map.mp member
    rfl
  cases words : camelWords cs with
  | nil =>
      rw [words] at spelled
      exact absurd spelled.symm nonempty
  | cons first others =>
      rw [words] at spelled joiners
      refine ⟨List.cons_ne_nil _ _, congrArg decapitalize (String.toList_injective ?_)⟩
      rw [toList_joinWords, String.toList_ofList, ← spelled, List.flatMap_cons]
      refine congrArg _ (List.flatMap_congr fun word member => ?_)
      simp [joiners word (by simp [member])]

/-- The capital in front of a property changes the case of a letter and no word. -/
theorem keys_capitalized {c : Char} {rest : List Char} (alpha : c.isAlpha = true)
    (alphanum : ∀ d ∈ rest, d.isAlphanum = true)
    (restored : decapitalizeChars (c.toUpper :: rest) = c :: rest) :
    (camelWords (c.toUpper :: rest)).map Word.key = (camelWords (c :: rest)).map Word.key := by
  obtain ⟨isCapital, sameSmall, kept, -⟩ := toUpper_of_isAlpha alpha
  by_cases upper : c.isUpper = true
  · rw [kept upper]
  have lower : c.isLower = true := by simpa [isAlpha_iff, upper] using alpha
  have noAcronym : rest.takeWhile Char.isUpper = [] := by
    cases rest with
    | nil => rfl
    | cons d rest =>
        have ascii : IsAscii d := isAscii_of_isAlphanum (alphanum d (by simp))
        have asciiCapital : IsAscii c.toUpper := isAscii_of_isUpper isCapital
        by_cases upperNext : d.isUpper = true
        · rw [decapitalizeChars, Text.isCapital_of_isAscii asciiCapital,
            Text.isCapital_of_isAscii ascii, isCapital, upperNext] at restored
          obtain ⟨same, -⟩ := List.cons_eq_cons.mp restored
          rw [same] at isCapital
          exact absurd isCapital upper
        · simp [upperNext]
  have behind : rest.dropWhile Char.isUpper = rest := by
    have split := List.takeWhile_append_dropWhile (p := Char.isUpper) (l := rest)
    rwa [noAcronym] at split
  have length : camelWordLength (c.toUpper :: rest) = (rest.takeWhile Char.isLower).length + 1 := by
    rw [camelWordLength_of_isUpper isCapital, noAcronym, behind]
    cases rest with
    | nil => rfl
    | cons d rest =>
        cases lowerNext : d.isLower <;> simp [startsSmall, lowerNext]
  have lengthSmall : camelWordLength (c :: rest) = (rest.takeWhile Char.isLower).length + 1 := by
    rw [camelWordLength, if_neg upper, if_pos lower]
  rw [camelWords, camelWords, scan_cons_of_succ length, scan_cons_of_succ lengthSmall]
  have asciiRest : ∀ d ∈ rest.take (rest.takeWhile Char.isLower).length, IsAscii d :=
    fun d member => isAscii_of_isAlphanum (alphanum d (List.mem_of_mem_take member))
  have keyCapital := Word.key_ofList (List.forall_mem_cons.mpr
    ⟨isAscii_of_isUpper isCapital, asciiRest⟩) ""
  have keySmall := Word.key_ofList (List.forall_mem_cons.mpr
    ⟨isAscii_of_isLower lower, asciiRest⟩) ""
  simp only [List.map_cons, keyCapital, keySmall, sameSmall]

end DerivedQuery
