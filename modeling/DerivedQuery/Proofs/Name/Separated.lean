import DerivedQuery.Sequence
import Mathlib.Data.List.Forall2

/-!
# Separated sequences

A sequence is read as items between separators when every part without separators is read as one
item. Cutting a sequence at its separators finds these parts, and cutting at two kinds of separators
at once is cutting at the one kind and then cutting all pieces at the other.
-/

set_option autoImplicit false

namespace DerivedQuery

variable {α β : Type} {test : α → Bool}

/-- The parts in front of and behind the first element that passes a test are determined. -/
theorem split_unique {front front' back back' : List α} {x x' : α}
    (plain : ∀ y ∈ front, test y = false) (cut : test x = true)
    (plain' : ∀ y ∈ front', test y = false) (cut' : test x' = true)
    (same : front ++ x :: back = front' ++ x' :: back') :
    front = front' ∧ x = x' ∧ back = back' := by
  induction front generalizing front' with
  | nil =>
      cases front' with
      | nil => simpa using same
      | cons y front' =>
          obtain ⟨rfl, -⟩ := List.cons_eq_cons.mp same
          exact absurd cut (by simp [plain' x (by simp)])
  | cons y front ih =>
      cases front' with
      | nil =>
          obtain ⟨rfl, -⟩ := List.cons_eq_cons.mp same
          exact absurd cut' (by simp [plain y (by simp)])
      | cons z front' =>
          obtain ⟨rfl, rest⟩ := List.cons_eq_cons.mp same
          obtain ⟨rfl, rfl, rfl⟩ := ih (fun w member => plain w (by simp [member]))
            (fun w member => plain' w (by simp [member])) rest
          exact ⟨rfl, rfl, rfl⟩

theorem plain_or_split (test : α → Bool) (words : List α) :
    (∀ w ∈ words, test w = false) ∨ ∃ front x back, words = front ++ x :: back ∧
      (∀ w ∈ front, test w = false) ∧ test x = true := by
  induction words with
  | nil => exact .inl (by simp)
  | cons w words ih =>
      cases passes : test w with
      | true => exact .inr ⟨[], w, words, rfl, by simp, passes⟩
      | false =>
          rcases ih with plain | ⟨front, x, back, rfl, plain, cut⟩
          · exact .inl (List.forall_mem_cons.mpr ⟨passes, plain⟩)
          · exact .inr ⟨w :: front, x, back, rfl, List.forall_mem_cons.mpr ⟨passes, plain⟩, cut⟩

theorem splitWhen_ne_nil (words : List α) : splitWhen test words ≠ [] := by
  cases words with
  | nil => exact List.cons_ne_nil _ _
  | cons w words =>
      unfold splitWhen
      split
      · exact List.cons_ne_nil _ _
      · split <;> exact List.cons_ne_nil _ _

theorem splitWhen_cons_plain {w : α} (words : List α) (plain : test w = false) :
    ∃ piece pieces, splitWhen test words = piece :: pieces ∧
      splitWhen test (w :: words) = (w :: piece) :: pieces := by
  obtain ⟨piece, pieces, split⟩ := List.exists_cons_of_ne_nil (splitWhen_ne_nil words)
  exact ⟨piece, pieces, split, by simp [splitWhen, plain, split]⟩

theorem splitWhen_plain {words : List α} (plain : ∀ w ∈ words, test w = false) :
    splitWhen test words = [words] := by
  induction words with
  | nil => rfl
  | cons w words ih =>
      obtain ⟨plainHere, plainRest⟩ := List.forall_mem_cons.mp plain
      simp [splitWhen, plainHere, ih plainRest]

theorem splitWhen_split {front back : List α} {x : α} (plain : ∀ w ∈ front, test w = false)
    (cut : test x = true) : splitWhen test (front ++ x :: back) = front :: splitWhen test back := by
  induction front with
  | nil => simp [splitWhen, cut]
  | cons w front ih =>
      obtain ⟨plainHere, plainRest⟩ := List.forall_mem_cons.mp plain
      simp [splitWhen, plainHere, ih plainRest]

theorem splitWhen_append_cons (front back : List α) {x : α} (cut : test x = true) :
    splitWhen test (front ++ x :: back) = splitWhen test front ++ splitWhen test back := by
  induction front with
  | nil => simp [splitWhen, cut]
  | cons w front ih =>
      cases passes : test w with
      | true => simp [splitWhen, passes, ih]
      | false =>
          obtain ⟨piece, pieces, split, splitHere⟩ := splitWhen_cons_plain front passes
          rw [split, List.cons_append] at ih
          simp [splitWhen, passes, split, ih]

/-- Sequences that are written with separators between them are cut on their own. -/
theorem splitWhen_intercalate {x : α} (cut : test x = true) {lists : List (List α)}
    (nonempty : lists ≠ []) :
    splitWhen test ([x].intercalate lists) = lists.flatMap (splitWhen test) := by
  induction lists with
  | nil => exact absurd rfl nonempty
  | cons list lists ih =>
      cases lists with
      | nil => simp
      | cons next lists =>
          rw [List.intercalate_cons_cons, List.append_assoc, List.singleton_append,
            splitWhen_append_cons _ _ cut, ih (List.cons_ne_nil _ _)]
          rfl

/-- The first piece stands at the front, and every piece is a part without gaps. -/
theorem infix_of_splitWhen {words piece : List α} {pieces : List (List α)}
    (split : splitWhen test words = piece :: pieces) :
    piece <+: words ∧ ∀ other ∈ pieces, other <:+: words := by
  induction words generalizing piece pieces with
  | nil =>
      obtain ⟨rfl, rfl⟩ := List.cons_eq_cons.mp split
      exact ⟨List.prefix_refl [], by simp⟩
  | cons x words ih =>
      obtain ⟨first, others, splitRest⟩ := List.exists_cons_of_ne_nil (splitWhen_ne_nil words)
      obtain ⟨front, inside⟩ := ih splitRest
      cases passes : test x with
      | true =>
          simp only [splitWhen, passes, if_true, splitRest] at split
          obtain ⟨rfl, rfl⟩ := List.cons_eq_cons.mp split
          refine ⟨List.nil_prefix, List.forall_mem_cons.mpr ⟨?_, fun other member => ?_⟩⟩
          · exact List.infix_cons front.isInfix
          · exact List.infix_cons (inside other member)
      | false =>
          simp only [splitWhen, passes, Bool.false_eq_true, if_false, splitRest] at split
          obtain ⟨rfl, rfl⟩ := List.cons_eq_cons.mp split
          refine ⟨(List.prefix_cons_inj x).mpr front, fun other member => ?_⟩
          exact List.infix_cons (inside other member)

theorem infix_of_mem_splitWhen {words piece : List α} (inside : piece ∈ splitWhen test words) :
    piece <:+: words := by
  obtain ⟨first, others, split⟩ := List.exists_cons_of_ne_nil (@splitWhen_ne_nil _ test words)
  obtain ⟨front, later⟩ := infix_of_splitWhen split
  rw [split] at inside
  rcases List.mem_cons.mp inside with rfl | member
  · exact front.isInfix
  · exact later piece member

theorem mem_of_mem_splitWhen {words piece : List α} (inside : piece ∈ splitWhen test words)
    {w : α} (member : w ∈ piece) : w ∈ words :=
  (infix_of_mem_splitWhen inside).subset member

theorem plain_of_mem_splitWhen {words piece : List α} (inside : piece ∈ splitWhen test words) :
    ∀ w ∈ piece, test w = false := by
  induction words generalizing piece with
  | nil =>
      obtain rfl := List.mem_singleton.mp inside
      simp
  | cons x words ih =>
      cases passes : test x with
      | true =>
          simp only [splitWhen, passes, if_true] at inside
          rcases List.mem_cons.mp inside with rfl | member
          · simp
          · exact ih member
      | false =>
          obtain ⟨first, pieces, split, splitHere⟩ := splitWhen_cons_plain words passes
          rw [splitHere] at inside
          rw [split] at ih
          rcases List.mem_cons.mp inside with rfl | member
          · exact List.forall_mem_cons.mpr ⟨passes, ih List.mem_cons_self⟩
          · exact ih (List.mem_cons_of_mem first member)

theorem splitWhen_map (f : β → α) (xs : List β) :
    splitWhen test (xs.map f) = (splitWhen (fun x => test (f x)) xs).map (List.map f) := by
  induction xs with
  | nil => rfl
  | cons x xs ih =>
      obtain ⟨piece, pieces, split⟩ :=
        List.exists_cons_of_ne_nil (@splitWhen_ne_nil _ (fun x => test (f x)) xs)
      cases passes : test (f x) with
      | true => simp [splitWhen, passes, ih]
      | false => simp [splitWhen, passes, ih, split]

/-- Cutting at two kinds of separators is cutting at one kind and then at the other. -/
theorem splitWhen_or (test other : α → Bool) (words : List α) :
    splitWhen (fun w => test w || other w) words =
      (splitWhen test words).flatMap (splitWhen other) := by
  induction words with
  | nil => rfl
  | cons w words ih =>
      cases passes : test w with
      | true => simp [splitWhen, passes, ih]
      | false =>
          obtain ⟨piece, pieces, split, splitHere⟩ := splitWhen_cons_plain words passes
          rw [splitHere, List.flatMap_cons]
          rw [split, List.flatMap_cons] at ih
          cases passesOther : other w with
          | true => simp [splitWhen, passes, passesOther, ih]
          | false =>
              obtain ⟨first, others, splitOther, splitOtherHere⟩ :=
                splitWhen_cons_plain piece passesOther
              simp [splitWhen, passes, passesOther, ih, splitOther]

/-- The items are read from the parts between the separators. -/
inductive Separated (test : α → Bool) (item : List α → β → Prop) : List α → List β → Prop where
  | last {words a} :
      (∀ w ∈ words, test w = false) → item words a → Separated test item words [a]
  | more {words separator rest a others} :
      (∀ w ∈ words, test w = false) → test separator = true → item words a →
      Separated test item rest others →
      Separated test item (words ++ separator :: rest) (a :: others)

/-- Cutting finds the parts that the items are read from. -/
theorem separated_iff {item : List α → β → Prop} {words : List α} {items : List β} :
    Separated test item words items ↔ List.Forall₂ item (splitWhen test words) items := by
  constructor
  · intro separated
    induction separated with
    | last plain reads => exact splitWhen_plain plain ▸ .cons reads .nil
    | more plain cut reads _ ih => exact splitWhen_split plain cut ▸ .cons reads ih
  · intro all
    induction size : words.length using Nat.strongRecOn generalizing words items with
    | ind n ih =>
        rcases plain_or_split test words with plain | ⟨front, x, back, rfl, plain, cut⟩
        · rw [splitWhen_plain plain] at all
          obtain ⟨a, others, reads, rest, rfl⟩ := List.forall₂_cons_left_iff.mp all
          rw [List.forall₂_nil_left_iff.mp rest]
          exact .last plain reads
        · rw [splitWhen_split plain cut] at all
          obtain ⟨a, others, reads, rest, rfl⟩ := List.forall₂_cons_left_iff.mp all
          refine .more plain cut reads (ih back.length ?_ rest rfl)
          rw [← size, List.length_append, List.length_cons]
          omega

end DerivedQuery
