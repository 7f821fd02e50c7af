import DerivedQuery.StableSort.Merge
import DerivedQuery.StableSort.Run

/-!
# Stable sorting

A list is cut into runs, and neighbouring runs are merged until one is left. Where two runs meet has
a power: the number of the first binary digit in which the middles of the two runs, as parts of the
whole list, differ. Of neighbouring runs those are merged first that meet at the greater power, so
that runs of about the same length are merged. Items keep their order where the order does not
decide. To sort in the opposite direction and stay stable, the list is reversed before and after.

For a strict weak order the result does not depend on how runs are cut and merged. For other
relations it does, and the definitions here settle it.
-/

set_option autoImplicit false

namespace DerivedQuery

variable {α : Type}

/-- The least length of runs: short lists are one run, and longer ones are halved until fewer than
64 items are left, counting one more when a half was not even. -/
def leastRun (length : Nat) (uneven : Bool) : Nat :=
  if length < 64 then length + uneven.toNat
  else leastRun (length / 2) (uneven || length % 2 == 1)
termination_by length
decreasing_by omega

/-- The power of the place where a run that begins at `start` meets the next one. -/
def meetingPower (total start length next : Nat) : Nat :=
  let middle := 2 * start + length
  let nextMiddle := middle + length + next
  let differs (digit : Nat) := middle * Nat.pow 2 digit / total != nextMiddle * Nat.pow 2 digit / total
  ((List.range (Nat.log2 total + 2)).find? differs).getD 0 + 1

/-- A run that waits to be merged, with the power of the place where it meets the next one. -/
structure WaitingRun (α : Type) where
  items : List α
  power : Nat

/-- The waiting runs, the last one first, and the patience of the merges. -/
structure WaitingRuns (α : Type) where
  runs : List (WaitingRun α)
  patience : Nat

namespace WaitingRuns

/-- Merges a run with those before it that meet their next one at a power greater than a given one.
Yields the merged run with its patience, and the runs that are left. -/
def settle (less : α → α → Bool) (power : Nat) (last : List α) (patience : Nat) :
    List (WaitingRun α) → (List α × Nat) × List (WaitingRun α)
  | [] => ((last, patience), [])
  | run :: rest =>
      if power < run.power then
        let merged := mergeRuns less patience run.items last
        settle less power merged.1 merged.2 rest
      else ((last, patience), run :: rest)

/-- Adds the next run of a list with `total` items. -/
def push (less : α → α → Bool) (total : Nat) (waiting : WaitingRuns α) (next : List α) :
    WaitingRuns α :=
  match waiting.runs with
  | [] => { waiting with runs := [⟨next, 0⟩] }
  | last :: rest =>
      let start := (rest.map fun run => run.items.length).foldr Nat.add 0
      let power := meetingPower total start last.items.length next.length
      let (merged, left) := settle less power last.items waiting.patience rest
      ⟨⟨next, 0⟩ :: ⟨merged.1, power⟩ :: left, merged.2⟩

/-- Merges all runs: the last two, or the two before the last when the last one is longer than the
third from the end. -/
def mergeAll (less : α → α → Bool) (patience : Nat) (runs : List (List α)) : List α :=
  match runs with
  | [] => []
  | [run] => run
  | [last, previous] => (mergeRuns less patience previous last).1
  | last :: previous :: earlier :: rest =>
      if earlier.length < last.length then
        let merged := mergeRuns less patience earlier previous
        mergeAll less merged.2 (last :: merged.1 :: rest)
      else
        let merged := mergeRuns less patience previous last
        mergeAll less merged.2 (merged.1 :: earlier :: rest)
termination_by runs.length
decreasing_by all_goals simp only [List.length_cons]; omega

end WaitingRuns

/-- The items in rising order. -/
def stableSort (less : α → α → Bool) (items : List α) : List α :=
  let cut := runs less (leastRun items.length false) items
  let waiting := cut.foldl (WaitingRuns.push less items.length) ⟨[], leastGallop⟩
  WaitingRuns.mergeAll less waiting.patience (waiting.runs.map WaitingRun.items)

/-- The items in falling order; equal ones keep their order. -/
def stableSortDescending (less : α → α → Bool) (items : List α) : List α :=
  (stableSort less items.reverse).reverse

end DerivedQuery
