import DerivedQuery.Proofs.Name.Scan
import Mathlib.Data.List.Nodup

/-!
# Pieces by a local rule

A rule says which elements of a sequence belong to pieces, and where the piece of an element ends in
front of the elements that follow. Where the lengths of pieces follow such a rule, scanning gives the
pieces by the rule: nothing that is kept is lost, neighbours are in one piece exactly if none ends
between them, and no piece reaches over an element that is dropped.
-/

set_option autoImplicit false

namespace DerivedQuery

variable {α β : Type} {kept : α → Bool} {ends : α → List α → Prop}

/-- The pieces of a sequence: each kept element is put in front of the piece behind it, unless its
own piece ends there. -/
inductive Pieces (kept : α → Bool) (ends : α → List α → Prop) : List α → List (List α) → Prop
  | nil : Pieces kept ends [] []
  | drop {x rest pieces} (dropped : kept x = false) (others : Pieces kept ends rest pieces) :
      Pieces kept ends (x :: rest) pieces
  | stop {x rest pieces} (isKept : kept x = true) (stops : ends x rest)
      (others : Pieces kept ends rest pieces) : Pieces kept ends (x :: rest) ([x] :: pieces)
  | grow {x y rest piece pieces} (isKept : kept x = true) (goesOn : ¬ ends x (y :: rest))
      (others : Pieces kept ends (y :: rest) ((y :: piece) :: pieces)) :
      Pieces kept ends (x :: y :: rest) ((x :: y :: piece) :: pieces)

/-- Two elements are in one piece. -/
def Together (pieces : List (List α)) (x y : α) : Prop := ∃ piece ∈ pieces, x ∈ piece ∧ y ∈ piece

theorem Together.mem_flatten {pieces : List (List α)} {x y : α} (together : Together pieces x y) :
    x ∈ pieces.flatten ∧ y ∈ pieces.flatten := by
  obtain ⟨piece, inside, first, second⟩ := together
  exact ⟨List.mem_flatten.mpr ⟨piece, inside, first⟩, List.mem_flatten.mpr ⟨piece, inside, second⟩⟩

theorem together_cons_iff {piece : List α} {pieces : List (List α)} {x y : α} :
    Together (piece :: pieces) x y ↔ (x ∈ piece ∧ y ∈ piece) ∨ Together pieces x y := by
  simp [Together]

namespace Pieces

variable {xs : List α} {pieces : List (List α)}

theorem flatten (made : Pieces kept ends xs pieces) : pieces.flatten = xs.filter kept := by
  induction made with
  | nil => rfl
  | drop dropped _ ih => rw [ih, List.filter_cons_of_neg (by simp [dropped])]
  | stop isKept _ _ ih => rw [List.flatten_cons, ih, List.filter_cons_of_pos isKept]; rfl
  | grow isKept _ _ ih =>
      rw [List.filter_cons_of_pos isKept, ← ih]
      rfl

theorem mem_of_together (made : Pieces kept ends xs pieces) {x y : α}
    (together : Together pieces x y) : (x ∈ xs ∧ kept x = true) ∧ y ∈ xs ∧ kept y = true := by
  have inside := together.mem_flatten
  rwa [made.flatten, List.mem_filter, List.mem_filter] at inside

/-- What neighbours within a piece have in common, the whole piece has in common. -/
theorem eq_of_together {γ : Type} {kind : α → γ} (made : Pieces kept ends xs pieces)
    (alike : ∀ x y rest, kept x = true → kept y = true → ¬ ends x (y :: rest) → kind x = kind y)
    {x y : α} (together : Together pieces x y) : kind x = kind y := by
  induction made generalizing x y with
  | nil => simp [Together] at together
  | drop _ _ ih => exact ih together
  | stop _ _ _ ih =>
      rcases together_cons_iff.mp together with ⟨first, second⟩ | later
      · rw [List.mem_singleton.mp first, List.mem_singleton.mp second]
      · exact ih later
  | @grow z w rest piece pieces isKept goesOn others ih =>
      have headKept : kept w = true :=
        (others.mem_of_together (x := w) (y := w) ⟨_, List.mem_cons_self, by simp, by simp⟩).1.2
      have same := alike z w rest isKept headKept goesOn
      have all : ∀ v ∈ z :: w :: piece, kind v = kind w := by
        intro v member
        rcases List.mem_cons.mp member with rfl | member
        · exact same
        · exact ih ⟨_, List.mem_cons_self, member, List.mem_cons_self⟩
      rcases together_cons_iff.mp together with ⟨first, second⟩ | later
      · rw [all x first, all y second]
      · exact ih (together_cons_iff.mpr (.inr later))

theorem exists_tail {z : α} (made : Pieces kept ends (z :: xs) pieces) :
    ∃ later, Pieces kept ends xs later ∧
      ∀ x y, x ≠ z → y ≠ z → (Together pieces x y ↔ Together later x y) := by
  cases made with
  | drop _ others => exact ⟨_, others, fun _ _ _ _ => Iff.rfl⟩
  | stop _ _ others =>
      refine ⟨_, others, fun x y other _ => ?_⟩
      simp [together_cons_iff, other]
  | grow _ _ others =>
      refine ⟨_, others, fun x y other otherSecond => ?_⟩
      simp [together_cons_iff, other, otherSecond]

theorem exists_suffix {front back : List α} (made : Pieces kept ends (front ++ back) pieces)
    (nodup : (front ++ back).Nodup) : ∃ later, Pieces kept ends back later ∧
      ∀ x ∈ back, ∀ y ∈ back, (Together pieces x y ↔ Together later x y) := by
  induction front generalizing pieces with
  | nil => exact ⟨pieces, made, fun _ _ _ _ => Iff.rfl⟩
  | cons z front ih =>
      obtain ⟨fresh, nodupRest⟩ := List.nodup_cons.mp nodup
      obtain ⟨rest, madeRest, same⟩ := made.exists_tail
      obtain ⟨later, madeLater, sameLater⟩ := ih madeRest nodupRest
      refine ⟨later, madeLater, fun x first y second => ?_⟩
      have other : ∀ v ∈ back, v ≠ z := by
        rintro v member rfl
        exact fresh (List.mem_append_right front member)
      exact (same x y (other x first) (other y second)).trans (sameLater x first y second)

/-- Neighbours are in one piece exactly if no piece ends between them. -/
theorem together_iff {front back : List α} {x y : α} (made : Pieces kept ends xs pieces)
    (nodup : xs.Nodup) (split : xs = front ++ x :: y :: back) (first : kept x = true) :
    Together pieces x y ↔ ¬ ends x (y :: back) := by
  subst split
  -- What is in front of `x` has no part in whether `x` and `y` are together.
  obtain ⟨later, madeLater, same⟩ := made.exists_suffix nodup
  have fresh : x ∉ y :: back := (List.nodup_cons.mp (List.Nodup.of_append_right nodup)).1
  rw [same x (by simp) y (by simp)]
  cases madeLater with
  | drop dropped _ => simp [first] at dropped
  | stop _ stops others =>
      refine iff_of_false (fun together => ?_) (not_not_intro stops)
      rcases together_cons_iff.mp together with ⟨-, second⟩ | others'
      · exact fresh (List.mem_singleton.mp second ▸ List.mem_cons_self)
      · exact fresh (others.mem_of_together others').1.1
  | grow _ goesOn _ => exact iff_of_true ⟨_, List.mem_cons_self, by simp, by simp⟩ goesOn

/-- No piece reaches over an element that is dropped. -/
theorem not_together {front middle back : List α} {x y : α} (made : Pieces kept ends xs pieces)
    (nodup : xs.Nodup) (split : xs = front ++ x :: (middle ++ y :: back))
    (dropped : ∃ z ∈ middle, kept z = false) : ¬ Together pieces x y := by
  subst split
  obtain ⟨later, madeLater, same⟩ := made.exists_suffix nodup
  rw [same x (by simp) y (by simp)]
  replace nodup := List.Nodup.of_append_right nodup
  clear same made
  -- By induction on what lies between: a piece that goes on from `x` goes on from the next element.
  induction middle generalizing x later with
  | nil => simp at dropped
  | cons w middle ih =>
      obtain ⟨fresh, nodupRest⟩ := List.nodup_cons.mp nodup
      intro together
      cases madeLater with
      | drop _ others => exact fresh (others.mem_of_together together).1.1
      | stop _ _ others =>
          rcases together_cons_iff.mp together with ⟨-, second⟩ | together
          · exact fresh (List.mem_singleton.mp second ▸ by simp)
          · exact fresh (others.mem_of_together together).1.1
      | @grow _ _ _ piece pieces _ _ others =>
          rcases together_cons_iff.mp together with ⟨-, second⟩ | together
          · have other : y ≠ x := by
              rintro rfl
              exact fresh (by simp)
            have next : Together ((w :: piece) :: pieces) w y :=
              ⟨_, List.mem_cons_self, List.mem_cons_self, List.mem_of_ne_of_mem other second⟩
            obtain ⟨z, member, isDropped⟩ := dropped
            rcases List.mem_cons.mp member with rfl | member
            · simp [(others.mem_of_together next).1.2] at isDropped
            · exact ih ⟨z, member, isDropped⟩ _ others nodupRest next
          · exact fresh (others.mem_of_together (together_cons_iff.mpr (.inr together))).1.1

end Pieces

/-- The length of the piece at the head of a sequence follows from the rule for kept elements and
ends. Where a piece goes on, it goes on with an element that is kept. -/
structure LocalLength (pieceLength : List α → Nat) (kept : α → Bool) (ends : α → List α → Prop) :
    Prop where
  drop : ∀ x rest, kept x = false → pieceLength (x :: rest) = 0
  stop : ∀ x rest, kept x = true → ends x rest → pieceLength (x :: rest) = 1
  grow : ∀ x rest, kept x = true → ¬ ends x rest →
    pieceLength (x :: rest) = pieceLength rest + 1 ∧ ∃ y ∈ rest.head?, kept y = true

namespace LocalLength

variable {pieceLength : List α → Nat}

theorem ne_zero (rule : LocalLength pieceLength kept ends) {x : α} (isKept : kept x = true)
    (rest : List α) : pieceLength (x :: rest) ≠ 0 := by
  by_cases stops : ends x rest
  · rw [rule.stop x rest isKept stops]
    exact Nat.one_ne_zero
  · rw [(rule.grow x rest isKept stops).1]
    exact Nat.succ_ne_zero _

theorem le_length (rule : LocalLength pieceLength kept ends) (x : α) (rest : List α) :
    pieceLength (x :: rest) ≤ (x :: rest).length := by
  cases isKept : kept x with
  | false =>
      rw [rule.drop x rest isKept]
      exact Nat.zero_le _
  | true =>
      by_cases stops : ends x rest
      · rw [rule.stop x rest isKept stops]
        exact Nat.le_add_left 1 _
      · obtain ⟨longer, y, isHead, -⟩ := rule.grow x rest isKept stops
        obtain ⟨more, rfl⟩ := List.head?_eq_some_iff.mp isHead
        rw [longer]
        exact Nat.succ_le_succ (rule.le_length y more)
  termination_by rest.length

/-- Two texts side by side are scanned on their own if no end in the first one depends on the second,
and its last piece ends in front of it. -/
theorem scan_append (rule : LocalLength pieceLength kept ends) {front back : List α}
    (same : ∀ x rest, x :: rest <:+ front → kept x = true → (ends x (rest ++ back) ↔ ends x rest)) :
    scan pieceLength (front ++ back) = scan pieceLength front ++ scan pieceLength back := by
  refine DerivedQuery.scan_append fun suffix nonempty inside => ?_
  induction suffix with
  | nil => exact absurd rfl nonempty
  | cons x rest ih =>
      refine ⟨?_, rule.le_length x rest⟩
      rw [List.cons_append]
      cases isKept : kept x with
      | false => rw [rule.drop _ _ isKept, rule.drop _ _ isKept]
      | true =>
          by_cases stops : ends x rest
          · rw [rule.stop _ _ isKept ((same x rest inside isKept).mpr stops),
              rule.stop _ _ isKept stops]
          · obtain ⟨longer, y, isHead, -⟩ := rule.grow x rest isKept stops
            obtain ⟨longerBoth, -⟩ := rule.grow x (rest ++ back) isKept
              (mt (same x rest inside isKept).mp stops)
            have goesOn : rest ≠ [] := by
              rintro rfl
              cases isHead
            rw [longer, longerBoth, (ih goesOn ((List.suffix_cons x rest).trans inside)).1]

theorem pieces_scan (rule : LocalLength pieceLength kept ends) (xs : List α) :
    Pieces kept ends xs (scan pieceLength xs) := by
  induction xs with
  | nil => exact .nil
  | cons x rest ih =>
      cases isKept : kept x with
      | false =>
          rw [scan_cons_of_zero (rule.drop x rest isKept)]
          exact .drop isKept ih
      | true =>
          by_cases stops : ends x rest
          · rw [scan_cons_of_succ (rule.stop x rest isKept stops)]
            exact .stop isKept stops ih
          · obtain ⟨longer, y, isHead, nextKept⟩ := rule.grow x rest isKept stops
            obtain ⟨more, rfl⟩ := List.head?_eq_some_iff.mp isHead
            obtain ⟨n, length⟩ := Nat.exists_eq_succ_of_ne_zero (rule.ne_zero nextKept more)
            rw [scan_cons_of_succ length] at ih
            rw [scan_cons_of_succ (longer.trans (congrArg (· + 1) length))]
            exact .grow isKept stops ih

theorem map (rule : LocalLength pieceLength kept ends) (f : β → α) :
    LocalLength (fun xs => pieceLength (xs.map f)) (fun x => kept (f x))
      (fun x rest => ends (f x) (rest.map f)) where
  drop x rest := rule.drop (f x) (rest.map f)
  stop x rest := rule.stop (f x) (rest.map f)
  grow x rest isKept goesOn := by
    obtain ⟨longer, y, isHead, nextKept⟩ := rule.grow (f x) (rest.map f) isKept goesOn
    rw [List.head?_map, Option.mem_def, Option.map_eq_some_iff] at isHead
    obtain ⟨z, isHead, rfl⟩ := isHead
    exact ⟨longer, z, isHead, nextKept⟩

end LocalLength

theorem scan_map (pieceLength : List α → Nat) (f : β → α) (xs : List β) :
    scan pieceLength (xs.map f) = (scan (fun xs => pieceLength (xs.map f)) xs).map (List.map f) := by
  induction xs using scan_induction fun xs => pieceLength (xs.map f) with
  | nil => rfl
  | drops x rest none ih =>
      have dropped := @scan_cons_of_zero _ (fun xs => pieceLength (xs.map f)) _ _ none
      rw [dropped, ← ih]
      exact scan_cons_of_zero none
  | reads x rest more starts ih =>
      have read := @scan_cons_of_succ _ (fun xs => pieceLength (xs.map f)) _ _ _ starts
      rw [read, List.map_cons (f := List.map f), ← ih, List.map_cons, List.map_drop,
        List.map_cons, List.map_take]
      exact scan_cons_of_succ starts

end DerivedQuery
