/-!
# Searching in sorted runs

Two searches count the items at the start of a run that come before a place. `firstPlace` halves the
run. `gallop` first takes growing steps from the start and then halves the part in which the last
step fell; it asks fewer questions when the place is near. On a run in which no item after the place
passes the test that items before it pass, both find the place.
-/

set_option autoImplicit false

namespace DerivedQuery

variable {α : Type}

/-- The number of items at the start of a list that fail the test, found by halving: an item in the
middle that fails puts the place behind it, one that satisfies the test puts it before. -/
def firstPlace (test : α → Bool) (items : List α) : Nat :=
  match items with
  | [] => 0
  | first :: rest =>
      let half := (rest.length + 1) / 2
      match (first :: rest)[half]? with
      | none => 0
      | some middle =>
          if test middle then firstPlace test ((first :: rest).take half)
          else half + 1 + firstPlace test ((first :: rest).drop (half + 1))
termination_by items.length
decreasing_by all_goals simp only [List.length_take, List.length_drop, List.length_cons]; omega

/-- The position of the last item that was seen to pass and of the first one that was not, when
every step is one more than twice the step before. Nothing is seen behind the end of the list. -/
def stride (passes : α → Bool) (items : List α) (last next : Nat) : Nat × Nat :=
  match h : items[next]? with
  | none => (last, items.length)
  | some item =>
      if passes item then stride passes items next (2 * next + 1) else (last, next)
termination_by items.length - next
decreasing_by
  have := (List.getElem?_eq_some_iff.mp h).1
  omega

/-- The number of items at the start of a run that pass. The run may be given from its end, in which
case the halves are taken in the order of the run as well. -/
def gallop (fromEnd : Bool) (passes : α → Bool) (items : List α) : Nat :=
  match items with
  | [] => 0
  | first :: _ =>
      if passes first then
        let (last, next) := stride passes items 0 1
        let between := (items.take next).drop (last + 1)
        let more :=
          if fromEnd then between.length - firstPlace passes between.reverse
          else firstPlace (fun item => !passes item) between
        last + 1 + more
      else 0

end DerivedQuery
