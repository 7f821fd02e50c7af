import DerivedQuery.StableSort.Search

/-!
# Merging two runs

Two runs become one: the first item of the right run goes first when it is less than the first one
of the left run. As long as neither run wins often, items are compared one by one. When one run has
won several times in a row, each run in turn gallops over all items that it may give at once, until
this no longer pays. The patience that the one-by-one mode has with a winning run shrinks with every
round of galloping and grows when galloping ends; it is handed on from merge to merge. A merge may
run from the end of the runs to their start, with the runs reversed and their roles exchanged.
-/

set_option autoImplicit false

namespace DerivedQuery

variable {α : Type}

/-- The number of items that a round of galloping has to move at once for another round to follow,
and the patience before the first merge. -/
def leastGallop : Nat := 7

/-- How a merge goes on. -/
inductive MergePace where
  /-- One by one; the last items were won in a row by one run. -/
  | steps (leftWins rightWins : Nat)
  /-- By rounds of galloping. -/
  | rounds
  deriving DecidableEq, Repr

/-- What one part of a merge has put out, what it has left over, and how many items it has moved at
once. -/
structure MergePart (α : Type) where
  merged : List α
  left : List α
  right : List α
  moved : Nat

namespace MergePart

/-- All items of the left run that do not come behind the first one of the right run, and then this
one. The last item of the left run is not passed over. -/
def gallopLeft (fromEnd : Bool) (less : α → α → Bool) (left right : List α) : MergePart α :=
  match right with
  | [] => ⟨[], left, [], 0⟩
  | key :: rest =>
      let count := gallop fromEnd (fun item => !less key item) left
      if left.length ≤ count + 1 then ⟨left.take count, left.drop count, key :: rest, count⟩
      else ⟨left.take count ++ [key], left.drop count, rest, count⟩

/-- All items of the right run that come before the first one of the left run, and then this one. -/
def gallopRight (fromEnd : Bool) (less : α → α → Bool) (left right : List α) : MergePart α :=
  match left with
  | [] => ⟨[], [], right, 0⟩
  | key :: rest =>
      let count := gallop fromEnd (fun item => less item key) right
      if right.length ≤ count then ⟨right.take count, key :: rest, right.drop count, count⟩
      else ⟨right.take count ++ [key], rest, right.drop count, count⟩

end MergePart

/-- Is one run all but used up, so that the merge ends without further comparisons? -/
def mergeEnds (left right : List α) : Bool := left.length ≤ 1 || right.isEmpty

/-- One round of galloping: first the left run, or from the end the right one, then the other. -/
def gallopRound (fromEnd : Bool) (less : α → α → Bool) (left right : List α) : MergePart α :=
  let gallopFirst := if fromEnd then MergePart.gallopRight else MergePart.gallopLeft
  let gallopSecond := if fromEnd then MergePart.gallopLeft else MergePart.gallopRight
  let first := gallopFirst fromEnd less left right
  if mergeEnds first.left first.right then first
  else
    let second := gallopSecond fromEnd less first.left first.right
    ⟨first.merged ++ second.merged, second.left, second.right, max first.moved second.moved⟩

theorem MergePart.length_gallopLeft_lt (fromEnd : Bool) (less : α → α → Bool) {left right : List α}
    (ongoing : mergeEnds left right = false) :
    (gallopLeft fromEnd less left right).left.length +
      (gallopLeft fromEnd less left right).right.length < left.length + right.length := by
  cases right with
  | nil => simp [mergeEnds] at ongoing
  | cons key rest =>
      simp only [mergeEnds, List.isEmpty_cons, Bool.or_false, decide_eq_false_iff_not] at ongoing
      simp only [gallopLeft]
      split <;> simp only [List.length_drop, List.length_cons] <;> omega

theorem MergePart.length_gallopRight_lt (fromEnd : Bool) (less : α → α → Bool)
    {left right : List α} (ongoing : mergeEnds left right = false) :
    (gallopRight fromEnd less left right).left.length +
      (gallopRight fromEnd less left right).right.length < left.length + right.length := by
  cases right with
  | nil => simp [mergeEnds] at ongoing
  | cons first others =>
      cases left with
      | nil => simp [mergeEnds] at ongoing
      | cons key rest =>
          simp only [gallopRight]
          split <;> simp only [List.length_drop, List.length_cons] at * <;> omega

/-- A round of galloping leaves fewer items than there were. -/
theorem length_gallopRound_lt (fromEnd : Bool) (less : α → α → Bool) {left right : List α}
    (ongoing : mergeEnds left right = false) :
    (gallopRound fromEnd less left right).left.length +
      (gallopRound fromEnd less left right).right.length < left.length + right.length := by
  have ahead := MergePart.length_gallopLeft_lt fromEnd less ongoing
  have behind := MergePart.length_gallopRight_lt fromEnd less ongoing
  cases fromEnd with
  | false =>
      simp only [gallopRound, Bool.false_eq_true, if_false]
      split
      · exact ahead
      · next more =>
          have := MergePart.length_gallopRight_lt false less (Bool.eq_false_iff.mpr more)
          exact Nat.lt_trans this ahead
  | true =>
      simp only [gallopRound, if_true]
      split
      · exact behind
      · next more =>
          have := MergePart.length_gallopLeft_lt true less (Bool.eq_false_iff.mpr more)
          exact Nat.lt_trans this behind

/-- Merges two runs at a pace. Yields the merged items and the patience that is left. The last item
of the left run belongs behind all items of the right one. -/
def mergeAt (fromEnd : Bool) (less : α → α → Bool) (patience : Nat) (pace : MergePace)
    (left right : List α) : List α × Nat :=
  match left, right with
  | left, [] => (left, patience)
  | [], right => (right, patience)
  | [last], right => (right ++ [last], patience)
  | l :: next :: restLeft, r :: restRight =>
      match pace with
      | .steps leftWins rightWins =>
          if less r l then
            let pace := if patience ≤ rightWins + 1 then .rounds else .steps 0 (rightWins + 1)
            let merged := mergeAt fromEnd less patience pace (l :: next :: restLeft) restRight
            (r :: merged.1, merged.2)
          else
            let pace := if patience ≤ leftWins + 1 then .rounds else .steps (leftWins + 1) 0
            let merged := mergeAt fromEnd less patience pace (next :: restLeft) (r :: restRight)
            (l :: merged.1, merged.2)
      | .rounds =>
          let round := gallopRound fromEnd less (l :: next :: restLeft) (r :: restRight)
          let again := leastGallop ≤ round.moved
          let patience :=
            if mergeEnds round.left round.right then patience
            else if again then max 1 (patience - 1) else patience + 1
          let pace := if again then .rounds else .steps 0 0
          let merged := mergeAt fromEnd less patience pace round.left round.right
          (round.merged ++ merged.1, merged.2)
termination_by left.length + right.length
decreasing_by
  · simp only [List.length_cons]; omega
  · simp only [List.length_cons]; omega
  · exact length_gallopRound_lt fromEnd less (by simp [mergeEnds])

/-- Merges two runs whose first item comes from the right one and whose last item comes from the
left one. The shorter run decides from which end. -/
def mergeCrossed (less : α → α → Bool) (patience : Nat) (left right : List α) : List α × Nat :=
  if left.length ≤ right.length then
    let merged := mergeAt false less patience (.steps 0 0) left (right.drop 1)
    (right.take 1 ++ merged.1, merged.2)
  else
    let falling := left.reverse
    let merged :=
      mergeAt true (fun a b => less b a) patience (.steps 0 0) right.reverse (falling.drop 1)
    ((falling.take 1 ++ merged.1).reverse, merged.2)

/-- Merges two runs. Items of the left run that come before the whole right one, and items of the
right run that come behind the whole left one, stay where they are. -/
def mergeRuns (less : α → α → Bool) (patience : Nat) (left right : List α) : List α × Nat :=
  match left.getLast?, right with
  | some last, first :: _ =>
      let before := gallop false (fun item => !less first item) left
      let behind := gallop true (fun item => !less item last) right.reverse
      let kept := right.length - behind
      if left.length ≤ before ∨ kept = 0 then (left ++ right, patience)
      else
        let merged := mergeCrossed less patience (left.drop before) (right.take kept)
        (left.take before ++ merged.1 ++ right.drop kept, merged.2)
  | _, _ => (left ++ right, patience)

end DerivedQuery
