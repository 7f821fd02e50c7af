import DerivedQuery.Sequence
import Mathlib.Data.List.Basic

/-!
# Scanning

Scanning a sequence reads the piece at its head and goes on behind it. No piece is empty. Two
sequences side by side are scanned on their own when no piece of the first reaches into the second.
-/

set_option autoImplicit false

namespace DerivedQuery

variable {α : Type} {pieceLength : List α → Nat}

theorem scanAfter_eq (pieceLength : List α → Nat) (skipped : Nat) (xs : List α) :
    scanAfter pieceLength skipped xs = scan pieceLength (xs.drop skipped) := by
  induction xs generalizing skipped with
  | nil => cases skipped <;> rfl
  | cons x rest ih =>
      cases skipped with
      | zero => rfl
      | succ skipped => exact ih skipped

theorem scan_nil : scan pieceLength [] = [] := rfl

theorem scan_cons_of_zero {x : α} {rest : List α} (none : pieceLength (x :: rest) = 0) :
    scan pieceLength (x :: rest) = scan pieceLength rest := by
  rw [scan, scanAfter, none]
  rfl

theorem scan_cons_of_succ {x : α} {rest : List α} {more : Nat}
    (starts : pieceLength (x :: rest) = more + 1) :
    scan pieceLength (x :: rest) = (x :: rest.take more) :: scan pieceLength (rest.drop more) := by
  rw [scan, scanAfter, starts]
  exact congrArg _ (scanAfter_eq pieceLength more rest)

theorem scan_whole {x : α} {rest : List α}
    (whole : pieceLength (x :: rest) = rest.length + 1) :
    scan pieceLength (x :: rest) = [x :: rest] := by
  rw [scan_cons_of_succ whole, List.take_length, List.drop_length, scan_nil]

theorem scan_induction (pieceLength : List α → Nat) {motive : List α → Prop} (nil : motive [])
    (drops : ∀ x rest, pieceLength (x :: rest) = 0 → motive rest → motive (x :: rest))
    (reads : ∀ x rest more, pieceLength (x :: rest) = more + 1 → motive (rest.drop more) →
      motive (x :: rest)) (xs : List α) : motive xs := by
  induction size : xs.length using Nat.strongRecOn generalizing xs with
  | ind n ih =>
      cases xs with
      | nil => exact nil
      | cons x rest =>
          rw [List.length_cons] at size
          cases length : pieceLength (x :: rest) with
          | zero => exact drops x rest length (ih rest.length (by omega) rest rfl)
          | succ more =>
              refine reads x rest more length (ih _ ?_ (rest.drop more) rfl)
              rw [List.length_drop]
              omega

theorem ne_nil_of_mem_scan {xs piece : List α} (member : piece ∈ scan pieceLength xs) :
    piece ≠ [] := by
  induction xs using scan_induction pieceLength with
  | nil => simp [scan_nil] at member
  | drops x rest none ih => exact ih (scan_cons_of_zero none ▸ member)
  | reads x rest more starts ih =>
      rw [scan_cons_of_succ starts] at member
      rcases List.mem_cons.mp member with rfl | member
      · exact List.cons_ne_nil _ _
      · exact ih member

/-- No piece of the first sequence reaches into the second. -/
theorem scan_append {xs ys : List α}
    (stops : ∀ suffix, suffix ≠ [] → suffix <:+ xs →
      pieceLength (suffix ++ ys) = pieceLength suffix ∧ pieceLength suffix ≤ suffix.length) :
    scan pieceLength (xs ++ ys) = scan pieceLength xs ++ scan pieceLength ys := by
  induction xs using scan_induction pieceLength with
  | nil => rfl
  | drops x rest none ih =>
      have same := (stops (x :: rest) (by simp) (List.suffix_refl _)).1
      rw [List.cons_append] at same
      rw [scan_cons_of_zero none, List.cons_append, scan_cons_of_zero (same.trans none)]
      exact ih fun suffix nonempty inside =>
        stops suffix nonempty (inside.trans (List.suffix_cons x rest))
  | reads x rest more length ih =>
      obtain ⟨same, fits⟩ := stops (x :: rest) (by simp) (List.suffix_refl _)
      rw [List.cons_append] at same
      have short : more ≤ rest.length := by
        rw [length, List.length_cons] at fits
        omega
      rw [scan_cons_of_succ length, List.cons_append, scan_cons_of_succ (same.trans length),
        List.take_append_of_le_length short, List.drop_append_of_le_length short, List.cons_append]
      rw [ih fun suffix nonempty inside => stops suffix nonempty
        (inside.trans ((List.drop_suffix more rest).trans (List.suffix_cons x rest)))]

end DerivedQuery
