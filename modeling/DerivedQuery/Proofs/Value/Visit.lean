import DerivedQuery.Proofs.Passes
import DerivedQuery.Proofs.Value.Timestamp
import DerivedQuery.Proofs.Value.Wrap

/-!
# Where wrapping fails

Wrapping visits the nodes of a datum depth first: the values of dictionaries in the order of their
entries, each behind its key, and the elements of lists and tuples in their order. It fails at the
first node that has no store value of its own, or at the first key that has no text, with the
failure of this node or key, and succeeds if there is none.
-/

set_option autoImplicit false

namespace DerivedQuery

namespace Numeral

end Numeral

/-- What wrapping comes to: a node, or a key, which is only written. -/
inductive Visit where
  | node (datum : Datum)
  | key (datum : Datum)

mutual

/-- The visits to a datum, each node in front of what is inside it. What is inside a store value or
a key is not visited. -/
def Datum.visited : Datum → List Visit
  | .dict entries => .node (.dict entries) :: visitedEntries entries
  | .list items => .node (.list items) :: visitedItems items
  | .tuple items => .node (.tuple items) :: visitedItems items
  | leaf => [.node leaf]

def visitedItems : List Datum → List Visit
  | [] => []
  | item :: rest => item.visited ++ visitedItems rest

def visitedEntries : List (Datum × Datum) → List Visit
  | [] => []
  | (key, item) :: rest => .key key :: (item.visited ++ visitedEntries rest)

end

namespace Visit

/-- What is wrong with a node or a key itself: a node has no store type, or it is a moment whose
date in UTC is not in the years 1 to 9999; the text of a key shows a number with too many digits. -/
def fault? : Visit → Option Failure
  | .node (.foreign object) => some (.unsupportedType object.typeName)
  | .node (.record className _) => some (.unsupportedType className)
  | .node (.moment m) => if m.InCalendar then none else some .momentOutOfRange
  | .node _ => none
  | .key datum =>
      if datum.shownIntegers.any Numeral.isTooLong then some .unwrittenInteger else none

theorem fault?_key {datum : Datum} {failure : Failure} :
    datum.keyText = .error failure ↔ (key datum).fault? = some failure := by
  rw [Datum.keyText_eq_error, fault?]
  cases datum.shownIntegers.any Numeral.isTooLong <;> simp

end Visit

section

variable {ε α β : Type} {action : Except ε α} {next : α → Except ε β} {first second : Option ε}

theorem exists_ok_iff (fails : ∀ failure, action = .error failure ↔ first = some failure) :
    (∃ item, action = .ok item) ↔ first = none := by
  cases action with
  | error failure => simp [(fails failure).mp rfl]
  | ok item =>
      refine iff_of_true ⟨item, rfl⟩ (Option.eq_none_iff_forall_ne_some.mpr fun failure found => ?_)
      exact nomatch (fails failure).mpr found

/-- Two steps fail as the first one does, or else as the second one does. -/
theorem bind_eq_error_iff_or (fails : ∀ failure, action = .error failure ↔ first = some failure)
    (failsNext : ∀ item failure, next item = .error failure ↔ second = some failure)
    (failure : ε) : action >>= next = .error failure ↔ first.or second = some failure := by
  rw [bind_eq_error, Option.or_eq_some_iff, ← fails failure, ← exists_ok_iff fails]
  simp only [failsNext, exists_and_right]

theorem bind_ok_eq_error {f : α → β} {failure : ε} :
    (action >>= fun item => .ok (f item)) = .error failure ↔ action = .error failure := by
  rw [bind_eq_error]
  simp

end

open Datum
open Visit (fault? fault?_key)

mutual

theorem Datum.wrap_eq_error_iff : (datum : Datum) → (failure : Failure) →
    (datum.wrap = .error failure ↔ datum.visited.findSome? fault? = some failure)
  | .dict entries, failure => by
      rw [wrap, bind_ok_eq_error, visited, List.findSome?_cons_of_isNone (by rfl)]
      exact wrapEntries_eq_error_iff entries failure
  | .list items, failure | .tuple items, failure => by
      rw [wrap, bind_ok_eq_error, visited, List.findSome?_cons_of_isNone (by rfl)]
      exact wrapItems_eq_error_iff items failure
  | .moment m, failure => by
      by_cases inCalendar : m.InCalendar
      · obtain ⟨t, wrapped⟩ := wrap_moment_of_inCalendar inCalendar
        simp [wrapped, visited, fault?, inCalendar]
      · simp [wrap_moment_of_not_inCalendar inCalendar, visited, fault?, inCalendar]
  | .foreign _, failure | .record _ _, failure => by simp [wrap, visited, fault?]
  | .null, _ | .boolean _, _ | .integer _, _ | .double _, _ | .text _, _ | .bytes _, _
  | .buffer _, _ | .wrapped _, _ => by simp [wrap, visited, fault?]

theorem wrapItems_eq_error_iff : (items : List Datum) → (failure : Failure) →
    (wrapItems items = .error failure ↔ (visitedItems items).findSome? fault? = some failure)
  | [], failure => by simp [wrapItems, visitedItems]
  | item :: rest, failure => by
      rw [wrapItems, visitedItems, List.findSome?_append]
      refine bind_eq_error_iff_or item.wrap_eq_error_iff (fun value failure => ?_) failure
      rw [bind_ok_eq_error]
      exact wrapItems_eq_error_iff rest failure

theorem wrapEntries_eq_error_iff : (entries : List (Datum × Datum)) → (failure : Failure) →
    (wrapEntries entries = .error failure ↔
      (visitedEntries entries).findSome? fault? = some failure)
  | [], failure => by simp [wrapEntries, visitedEntries]
  | (key, item) :: rest, failure => by
      have atKey (failure : Failure) : key.keyText = .error failure ↔
          [Visit.key key].findSome? fault? = some failure := by
        rw [fault?_key, List.findSome?_singleton]
      rw [wrapEntries, visitedEntries, ← List.singleton_append, List.findSome?_append,
        List.findSome?_append]
      refine bind_eq_error_iff_or atKey (fun name failure => ?_) failure
      refine bind_eq_error_iff_or item.wrap_eq_error_iff (fun value failure => ?_) failure
      rw [bind_ok_eq_error]
      exact wrapEntries_eq_error_iff rest failure

end

end DerivedQuery
