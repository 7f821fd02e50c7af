import DerivedQuery.Proofs.Name.Boundary
import Mathlib.Data.List.SplitBy

/-!
# Runs of letters and of digits

In snake style the words of a text are its maximal runs of letters and of digits, in their order.
-/

set_option autoImplicit false

namespace DerivedQuery

section

variable {α : Type} (related : α → α → Bool) (x y : α) (rest : List α)

theorem exists_splitBy_cons :
    ∃ run runs, (x :: rest).splitBy related = (x :: run) :: runs := by
  obtain ⟨first, runs, split⟩ :=
    List.exists_cons_of_ne_nil ((@List.splitBy_ne_nil _ related _).mpr (List.cons_ne_nil x rest))
  have whole := List.flatten_splitBy related (x :: rest)
  have nonempty : first ≠ [] := List.ne_nil_of_mem_splitBy (split ▸ List.mem_cons_self)
  obtain ⟨z, run, rfl⟩ := List.exists_cons_of_ne_nil nonempty
  rw [split, List.flatten_cons, List.cons_append, List.cons_eq_cons] at whole
  exact ⟨run, runs, whole.1 ▸ split⟩

variable {related x y rest}

theorem splitBy_cons_of_related {run : List α} {runs : List (List α)}
    (split : (y :: rest).splitBy related = (y :: run) :: runs) (same : related x y = true) :
    (x :: y :: rest).splitBy related = (x :: y :: run) :: runs := by
  obtain ⟨whole, nonempty, chains, apart⟩ := List.splitBy_eq_iff.mp split
  refine List.splitBy_eq_iff.mpr ⟨?_, ?_, ?_, ?_⟩
  · rw [whole]
    rfl
  · simpa using nonempty
  · obtain ⟨here, later⟩ := List.forall_mem_cons.mp chains
    exact List.forall_mem_cons.mpr ⟨List.isChain_cons_cons.mpr ⟨same, here⟩, later⟩
  · cases runs with
    | nil => exact List.isChain_singleton _
    | cons next runs =>
        obtain ⟨⟨here, there, differ⟩, later⟩ := List.isChain_cons_cons.mp apart
        exact List.isChain_cons_cons.mpr ⟨⟨List.cons_ne_nil _ _, there, by simpa using differ⟩, later⟩

theorem splitBy_cons_of_not_related (differ : related x y = false) :
    (x :: y :: rest).splitBy related = [x] :: (y :: rest).splitBy related := by
  have alone := List.splitBy_append (r := related) (l := [x]) (m := y :: rest) (by simpa using differ)
  exact alone

end

/-- Both characters are letters, or digits, or belong to no word. -/
def sameKind (c d : Char) : Bool := c.isAlpha == d.isAlpha && Text.isDigit c == Text.isDigit d

/-- The maximal runs of letters and of digits in a text. -/
def letterRuns (cs : List Char) : List (List Char) :=
  (cs.splitBy sameKind).filter fun run => run.head?.any isWordChar

theorem sameKind_iff {c d : Char} (isWord : isWordChar c = true) :
    sameKind c d = true ↔ isWordChar d = true ∧ ¬ KindsDiffer c d := by
  rcases kind_cases c with ⟨l, g⟩ | ⟨l, g⟩ | ⟨l, g⟩ <;>
    rcases kind_cases d with ⟨m, h⟩ | ⟨m, h⟩ | ⟨m, h⟩ <;>
      simp_all [sameKind, KindsDiffer, isWordChar]

theorem endsBy_snake_iff {c d : Char} {back : List Char} (isWord : isWordChar c = true) :
    EndsBy SnakeBoundary c (d :: back) ↔ sameKind c d = false := by
  rw [← Bool.not_eq_true, sameKind_iff isWord, endsBy_cons, not_and, not_not]
  rfl

theorem isWordChar_of_sameKind {c d : Char} (same : sameKind c d = true) :
    isWordChar d = isWordChar c := by
  obtain ⟨letters, digits⟩ := Bool.and_eq_true_iff.mp same
  rw [isWordChar, isWordChar, beq_iff_eq.mp letters, beq_iff_eq.mp digits]

theorem Pieces.eq_letterRuns {cs : List Char} {pieces : List (List Char)}
    (made : Pieces isWordChar (EndsBy SnakeBoundary) cs pieces) : pieces = letterRuns cs := by
  unfold letterRuns
  induction made with
  | nil => rfl
  | @drop x rest pieces dropped _ ih =>
      rw [ih]
      cases rest with
      | nil => simp [show [x].splitBy sameKind = [[x]] from rfl, dropped]
      | cons y rest =>
          cases same : sameKind x y with
          | false => simp [splitBy_cons_of_not_related same, dropped]
          | true =>
              obtain ⟨run, runs, split⟩ := exists_splitBy_cons sameKind y rest
              rw [splitBy_cons_of_related split same, split]
              simp [dropped, isWordChar_of_sameKind same]
  | @stop x rest pieces isWord stops _ ih =>
      rw [ih]
      cases rest with
      | nil => simp [show [x].splitBy sameKind = [[x]] from rfl, isWord]
      | cons y rest =>
          rw [splitBy_cons_of_not_related ((endsBy_snake_iff isWord).mp stops)]
          simp [isWord]
  | @grow x y rest piece pieces isWord goesOn _ ih =>
      rw [endsBy_snake_iff isWord, Bool.not_eq_false] at goesOn
      obtain ⟨run, runs, split⟩ := exists_splitBy_cons sameKind y rest
      rw [split, List.filter_cons_of_pos (by simp [isWordChar_of_sameKind goesOn, isWord])] at ih
      obtain ⟨same, later⟩ := List.cons_eq_cons.mp ih
      rw [splitBy_cons_of_related split goesOn, List.filter_cons_of_pos (by simp [isWord]), same, later]

end DerivedQuery
