/-!
# Cutting sequences

`splitWhen` cuts a sequence at every element that satisfies a test and drops these elements, so that
there is always one piece more than there are cuts. `scan` reads pieces one after the other: a
function says how long the piece at the head is, and an element at which no piece starts is dropped.
-/

set_option autoImplicit false

namespace DerivedQuery

variable {α : Type}

/-- The pieces between the elements that satisfy the test. -/
def splitWhen (test : α → Bool) : List α → List (List α)
  | [] => [[]]
  | x :: rest =>
      if test x then [] :: splitWhen test rest
      else
        match splitWhen test rest with
        | [] => [[x]]
        | piece :: pieces => (x :: piece) :: pieces

/-- The pieces of a sequence after its first `skipped` elements, which belong to a piece that has
been read already. -/
def scanAfter (pieceLength : List α → Nat) : Nat → List α → List (List α)
  | _, [] => []
  | skipped + 1, _ :: rest => scanAfter pieceLength skipped rest
  | 0, x :: rest =>
      match pieceLength (x :: rest) with
      | 0 => scanAfter pieceLength 0 rest
      | more + 1 => (x :: rest.take more) :: scanAfter pieceLength more rest

/-- The pieces of a sequence, where `pieceLength` is the length of the piece at the head, zero if
none starts there. -/
def scan (pieceLength : List α → Nat) (xs : List α) : List (List α) :=
  scanAfter pieceLength 0 xs

end DerivedQuery
