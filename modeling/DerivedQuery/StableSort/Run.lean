import DerivedQuery.StableSort.Search

/-!
# Runs

A run is a part of a list in rising order. The leading run of a list is taken as it stands; a
strictly falling one is reversed, which moves no two items that are alike. Where runs have to have
some length, further items are put in their places one by one.
-/

set_option autoImplicit false

namespace DerivedQuery

variable {α : Type}

/-- Puts an item behind those it is not less than. -/
def insertSorted (less : α → α → Bool) (sorted : List α) (item : α) : List α :=
  let place := firstPlace (less item) sorted
  sorted.take place ++ item :: sorted.drop place

/-- The items up to the first that is less than the one before it, and what follows them. -/
def risingRun (less : α → α → Bool) (last : α) : List α → List α × List α
  | [] => ([], [])
  | item :: rest =>
      if less item last then ([], item :: rest)
      else
        let run := risingRun less item rest
        (item :: run.1, run.2)

/-- The items up to the first that is not less than the one before it, and what follows them. -/
def fallingRun (less : α → α → Bool) (last : α) : List α → List α × List α
  | [] => ([], [])
  | item :: rest =>
      if less item last then
        let run := fallingRun less item rest
        (item :: run.1, run.2)
      else ([], item :: rest)

/-- The leading run in rising order, and what follows it. -/
def leadingRun (less : α → α → Bool) : List α → List α × List α
  | first :: second :: rest =>
      if less second first then
        let run := fallingRun less first (second :: rest)
        ((first :: run.1).reverse, run.2)
      else
        let run := risingRun less first (second :: rest)
        (first :: run.1, run.2)
  | items => (items, [])

/-- The leading run, extended to a least length as far as there are items, and what follows it. -/
def extendedRun (less : α → α → Bool) (least : Nat) (items : List α) : List α × List α :=
  let run := leadingRun less items
  let missing := least - run.1.length
  ((run.2.take missing).foldl (insertSorted less) run.1, run.2.drop missing)

/-- The items cut into runs of a least length; the last one may be shorter. The recursion is bounded
by `fuel`, for which the number of items is enough, because no run is empty. -/
def runsWithin (less : α → α → Bool) (least : Nat) : Nat → List α → List (List α)
  | 0, _ => []
  | _ + 1, [] => []
  | fuel + 1, first :: rest =>
      let run := extendedRun less least (first :: rest)
      run.1 :: runsWithin less least fuel run.2

/-- The items cut into runs of a least length; the last one may be shorter. -/
def runs (less : α → α → Bool) (least : Nat) (items : List α) : List (List α) :=
  runsWithin less least items.length items

end DerivedQuery
