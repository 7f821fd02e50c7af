import DerivedQuery.Repository.Annotation
import Mathlib.Tactic.Common

/-!
# Going deeper

What an expression means does not depend on how deep evaluation may go. Where evaluation goes only
so far down it gives up, as too deep, or it comes to what it would come to going deeper. Every step
of evaluation has this from the evaluations within it, so that all depths have it.
-/

set_option autoImplicit false

namespace DerivedQuery

namespace Evaluation

variable {α β : Type}

/-- Wherever the first evaluation is not too deep, the second comes to the same. -/
def UpToDepth (shallow deep : Evaluation α) : Prop :=
  ∀ scope, shallow scope = .error (.expression .tooDeep) ∨ shallow scope = deep scope

namespace UpToDepth

theorem refl (evaluation : Evaluation α) : evaluation.UpToDepth evaluation :=
  fun _ => .inr rfl

theorem trans {shallow deep deepest : Evaluation α} (first : shallow.UpToDepth deep)
    (second : deep.UpToDepth deepest) : shallow.UpToDepth deepest := by
  intro scope
  rcases first scope with given | same
  · exact .inl given
  · rw [same]
    exact second scope

theorem tooDeep (deep : Evaluation α) : UpToDepth (fail .tooDeep) deep :=
  fun _ => .inl rfl

theorem bind {shallow deep : Evaluation α} {next further : α → Evaluation β}
    (first : shallow.UpToDepth deep) (then_ : ∀ found, (next found).UpToDepth (further found)) :
    UpToDepth (shallow >>= next) (deep >>= further) := by
  intro scope
  change shallow scope >>= (fun found => next found.1 found.2) = _ ∨
    shallow scope >>= (fun found => next found.1 found.2) =
      deep scope >>= fun found => further found.1 found.2
  rcases first scope with given | same
  · rw [given]
    exact .inl rfl
  · rw [same]
    cases deep scope with
    | error failure => exact .inr rfl
    | ok found => exact then_ found.1 found.2

theorem next {first : Evaluation α} {next further : α → Evaluation β}
    (then_ : ∀ found, (next found).UpToDepth (further found)) :
    UpToDepth (first >>= next) (first >>= further) :=
  (refl first).bind then_

theorem map (f : α → β) {shallow deep : Evaluation α} (same : shallow.UpToDepth deep) :
    UpToDepth (f <$> shallow) (f <$> deep) :=
  same.bind fun found => refl (pure (f found))

theorem choose {condition : Prop} [Decidable condition]
    {shallow deep shallowElse deepElse : Evaluation α} (holds : shallow.UpToDepth deep)
    (fails : shallowElse.UpToDepth deepElse) :
    UpToDepth (if condition then shallow else shallowElse) (if condition then deep else deepElse) := by
  split
  · exact holds
  · exact fails

theorem each {action further : Meaning → Evaluation (List Meaning)}
    (same : ∀ element, (action element).UpToDepth (further element)) (items : List Meaning) :
    (forEach items action).UpToDepth (forEach items further) := by
  induction items with
  | nil => exact refl _
  | cons item rest ih => exact (same item).bind fun _ => ih.bind fun _ => refl _

end UpToDepth

/-- Everything that is worked out by the first way is worked out by the second, up to its depth. -/
structure Inner.UpToDepth (inner deeper : Inner) : Prop where
  value (expression : Expression) : (inner.value expression).UpToDepth (deeper.value expression)
  elements (meaning : Meaning) : (inner.elements meaning).UpToDepth (deeper.elements meaning)

open UpToDepth

section

variable {inner deeper : Inner} (same : inner.UpToDepth deeper)

include same

/-! ## Gatherings -/

private theorem gather_upToDepth {item further : Evaluation (List Meaning)}
    (items : item.UpToDepth further) (clauses : List GatheringClause) :
    (gather inner item clauses).UpToDepth (gather deeper further clauses) := by
  induction clauses with
  | nil => exact items
  | cons clause rest ih =>
      cases clause with
      | only condition => exact (same.value condition).bind fun _ => choose ih (refl _)
      | each target source =>
          refine (same.value source).bind fun meaning => (same.elements meaning).bind fun found => ?_
          exact each (fun _ => next fun _ => ih) found

private theorem gatheredItem_upToDepth (gathering : Gathering) (item : Expression) :
    (gatheredItem inner gathering item).UpToDepth (gatheredItem deeper gathering item) := by
  cases item with
  | entry key value =>
      exact (same.value key).bind fun _ => (same.value value).bind fun _ => refl _
  | _ => exact (same.value _).bind fun _ => refl _

private theorem gatherFrom_upToDepth (gathering : Gathering) (item : Expression)
    (first : List Meaning) (clauses : List GatheringClause) :
    (gatherFrom inner gathering item first clauses).UpToDepth
      (gatherFrom deeper gathering item first clauses) := by
  cases clauses with
  | nil => exact refl _
  | cons clause rest =>
      cases clause with
      | only condition => exact refl _
      | each target source =>
          refine each (fun _ => next fun _ => ?_) first
          exact gather_upToDepth same (gatheredItem_upToDepth same gathering item) rest

private theorem elementsOf_upToDepth (meaning : Meaning) :
    (elementsOf inner meaning).UpToDepth (elementsOf deeper meaning) := by
  cases meaning with
  | generator path first item clauses captured =>
      refine next fun _ => next fun _ => ?_
      exact (gatherFrom_upToDepth same .generator item first clauses).bind fun _ => refl _
  | _ => exact refl _

private theorem firstElements_upToDepth (clauses : List GatheringClause) :
    (firstElements inner clauses).UpToDepth (firstElements deeper clauses) := by
  cases clauses with
  | nil => exact refl _
  | cons clause rest =>
      cases clause with
      | only condition => exact refl _
      | each target source => exact (same.value source).bind fun meaning => same.elements meaning

private theorem gatherAll_upToDepth (gathering : Gathering) (item : Expression)
    (clauses : List GatheringClause) :
    (gatherAll inner gathering item clauses).UpToDepth
      (gatherAll deeper gathering item clauses) := by
  refine (firstElements_upToDepth same clauses).bind fun first => ?_
  have found := gatherFrom_upToDepth same gathering item first clauses
  have released := @next _ _ (get : Evaluation Scope) _ _ fun before =>
    @next _ _ (set { before with path := before.path ++ gatheringName gathering ++ "." }) _ _
      fun _ => found.bind fun elements => refl (do
        modify fun scope =>
          { scope.release before (heldNames clauses) with path := before.path }
        pure elements)
  cases gathering with
  | generator => exact refl _
  | _ => exact released.bind fun _ => refl _

/-! ## Collections -/

private theorem spreadElements_upToDepth (refuse : String → Failure) (meaning : Meaning) :
    (spreadElements inner refuse meaning).UpToDepth (spreadElements deeper refuse meaning) := by
  unfold spreadElements
  exact choose (next fun _ => choose (next fun _ => same.elements meaning) (same.elements meaning))
    (choose (next fun _ => same.elements meaning) (same.elements meaning))

private theorem itemsOf_upToDepth (items : List Expression) :
    (itemsOf inner items).UpToDepth (itemsOf deeper items) := by
  induction items with
  | nil => exact refl _
  | cons item rest ih =>
      cases item with
      | spread spread =>
          refine (same.value spread).bind fun meaning => ?_
          exact (spreadElements_upToDepth same _ meaning).bind fun _ => ih.bind fun _ => refl _
      | _ => exact (same.value _).bind fun _ => ih.bind fun _ => refl _

private theorem membersFrom_upToDepth (before : List Meaning) (waiting : Bool)
    (items : List Expression) :
    (membersFrom inner before waiting items).UpToDepth (membersFrom deeper before waiting items) := by
  induction items generalizing before waiting with
  | nil => exact refl _
  | cons item rest ih =>
      cases item with
      | spread spread =>
          refine next fun found => (same.value spread).bind fun meaning => ?_
          exact (spreadElements_upToDepth same _ meaning).bind fun _ => next fun all => ih all false
      | _ =>
          refine (same.value _).bind fun meaning => ?_
          exact choose (ih _ true) (next fun all => ih all false)

private theorem entriesFrom_upToDepth (before waiting : List (Meaning × Meaning))
    (items : List Expression) :
    (entriesFrom inner before waiting items).UpToDepth
      (entriesFrom deeper before waiting items) := by
  induction items generalizing before waiting with
  | nil => exact refl _
  | cons item rest ih =>
      cases item with
      | spreadEntries entries =>
          refine next fun found => (same.value entries).bind fun meaning => ?_
          cases meaning with
          | dictionary more => exact next fun all => ih all []
          | unknown => exact ih found []
          | _ => exact refl _
      | entry key value =>
          exact (same.value key).bind fun _ => (same.value value).bind fun _ => ih _ _
      | _ => exact ih before waiting

private theorem piecesOf_upToDepth (pieces : List Expression) :
    (piecesOf inner pieces).UpToDepth (piecesOf deeper pieces) := by
  induction pieces with
  | nil => exact refl _
  | cons piece rest ih => exact (same.value piece).bind fun _ => ih.bind fun _ => refl _

/-! ## Comparisons and calls -/

private theorem compare_upToDepth (left : Meaning) (others : List (Relation × Expression)) :
    (compare inner left others).UpToDepth (compare deeper left others) := by
  induction others generalizing left with
  | nil => exact refl _
  | cons other rest ih =>
      cases rest with
      | nil => exact (same.value other.2).bind fun _ => refl _
      | cons further rest =>
          exact (same.value other.2).bind fun right => next fun _ => choose (ih right) (refl _)

private theorem namedArguments_upToDepth (callee : Meaning) (before : CallArguments)
    (waiting : List (String × Meaning)) (arguments : List Expression) :
    (namedArguments inner callee before waiting arguments).UpToDepth
      (namedArguments deeper callee before waiting arguments) := by
  induction arguments generalizing before waiting with
  | nil => exact refl _
  | cons argument rest ih =>
      cases argument with
      | named name value => exact (same.value value).bind fun _ => ih _ _
      | spreadEntries entries =>
          refine next fun found => (same.value entries).bind fun meaning => ?_
          cases meaning with
          | dictionary more => exact next fun all => ih all []
          | unknown => exact ih _ []
          | _ => exact refl _
      | _ => exact ih before waiting

private theorem argumentsOf_upToDepth (callee : Meaning) (arguments : List Expression) :
    (argumentsOf inner callee arguments).UpToDepth (argumentsOf deeper callee arguments) := by
  unfold argumentsOf
  split
  · refine (same.value _).bind fun meaning => ?_
    refine (namedArguments_upToDepth same callee _ _ arguments).bind fun _ => ?_
    exact (spreadElements_upToDepth same _ meaning).bind fun _ => refl _
  · refine (itemsOf_upToDepth same _).bind fun _ => ?_
    exact namedArguments_upToDepth same callee _ _ arguments

private theorem callClosure_upToDepth (path : String) (parameters : List Parameter)
    (fallbacks : List (String × Meaning)) (suspends : Bool) (body : Expression)
    (captured : List (String × Meaning)) (given : CallArguments) :
    (callClosure inner path parameters fallbacks suspends body captured given).UpToDepth
      (callClosure deeper path parameters fallbacks suspends body captured given) := by
  refine next fun taken => choose (refl _) ?_
  exact next fun _ => next fun _ => (same.value body).bind fun _ => refl _

private theorem consumedAll_upToDepth (arguments : List Meaning) :
    (consumedAll inner arguments).UpToDepth (consumedAll deeper arguments) := by
  induction arguments with
  | nil => exact refl _
  | cons argument rest ih =>
      refine UpToDepth.bind ?_ fun _ => ih.bind fun _ => refl _
      cases argument with
      | generator => exact (same.elements _).bind fun _ => refl _
      | _ => exact refl _

private theorem call_upToDepth (callee : Meaning) (given : CallArguments) :
    (call inner callee given).UpToDepth (call deeper callee given) := by
  have consumed := consumedAll_upToDepth same given.positional
  unfold call
  split
  · exact choose (refl _) (callClosure_upToDepth same _ _ _ _ _ _ given)
  · split
    · dsimp only
      split
      · exact same.value _
      · exact refl _
    · exact refl _
  · exact choose (consumed.bind fun _ => refl _) (refl _)
  · exact choose (consumed.bind fun _ => refl _) (refl _)
  · exact consumed.bind fun _ => refl _
  · exact refl _

private theorem fallbacksOf_upToDepth (fallbacks : List (String × Expression)) :
    (fallbacksOf inner fallbacks).UpToDepth (fallbacksOf deeper fallbacks) := by
  induction fallbacks with
  | nil => exact refl _
  | cons fallback rest ih => exact (same.value fallback.2).bind fun _ => ih.bind fun _ => refl _

/-! ## Expressions -/

theorem step_upToDepth (expression : Expression) :
    (step inner expression).UpToDepth (step deeper expression) := by
  cases expression with
  | identifier | datum | imaginary | ellipsis => exact refl _
  | joined pieces => exact (piecesOf_upToDepth same pieces).map _
  | shown value conversion layout =>
      refine (same.value value).bind fun _ => ?_
      exact (piecesOf_upToDepth same layout).bind fun _ => refl _
  | tuple items | list items => exact (itemsOf_upToDepth same items).map _
  | set items => exact (membersFrom_upToDepth same _ _ items).map _
  | dictionary items => exact (entriesFrom_upToDepth same _ _ items).map _
  | member base => exact (same.value base).bind fun _ => refl _
  | part base index =>
      exact (same.value base).bind fun _ => (same.value index).bind fun _ => refl _
  | slice first last stride =>
      refine (same.value first).bind fun _ => (same.value last).bind fun _ => ?_
      exact (same.value stride).bind fun _ => refl _
  | call callee arguments =>
      refine (same.value callee).bind fun meaning => ?_
      exact (argumentsOf_upToDepth same meaning arguments).bind fun given =>
        call_upToDepth same meaning given
  | signed sign operand | negation operand => exact (same.value operand).bind fun _ => refl _
  | operation operation left right =>
      exact (same.value left).bind fun _ => (same.value right).bind fun _ => refl _
  | comparison first others =>
      exact (same.value first).bind fun meaning => compare_upToDepth same meaning others
  | both left right => exact (same.value left).bind fun _ => choose (same.value right) (refl _)
  | either left right => exact (same.value left).bind fun _ => choose (refl _) (same.value right)
  | choice condition positive negative =>
      exact (same.value condition).bind fun _ => same.value _
  | function parameters fallbacks => exact (fallbacksOf_upToDepth same fallbacks).bind fun _ => refl _
  | gathered gathering item clauses => exact gatherAll_upToDepth same gathering item clauses
  | assigned name value => exact (same.value value).bind fun _ => refl _
  | entry _ value | spread value | spreadEntries value | named _ value => exact same.value value

end

/-- Going one deeper changes nothing but where evaluation is too deep. -/
theorem ofDepth_succ (fuel : Nat) : (ofDepth fuel).UpToDepth (ofDepth (fuel + 1)) := by
  induction fuel with
  | zero => exact ⟨fun _ => tooDeep _, fun _ => tooDeep _⟩
  | succ fuel ih => exact ⟨step_upToDepth ih, elementsOf_upToDepth ih⟩

theorem ofDepth_le {fuel more : Nat} (deeper : fuel ≤ more) :
    (ofDepth fuel).UpToDepth (ofDepth more) := by
  induction deeper with
  | refl => exact ⟨fun _ => refl _, fun _ => refl _⟩
  | @step more _ ih =>
      have further := ofDepth_succ more
      exact ⟨fun expression => (ih.value expression).trans (further.value expression),
        fun meaning => (ih.elements meaning).trans (further.elements meaning)⟩

/-- What is not too deep does not depend on how deep evaluation may go. -/
theorem value_eq_of_le {fuel more : Nat} {expression : Expression} {scope : Scope}
    (deeper : fuel ≤ more)
    (worked : (ofDepth fuel).value expression scope ≠ .error (.expression .tooDeep)) :
    (ofDepth more).value expression scope = (ofDepth fuel).value expression scope :=
  (((ofDepth_le deeper).value expression scope).resolve_left worked).symm

end Evaluation

/-- Names and literals, their attributes and parts, sequences of such, and operations on such, which
lie within each other less than `depth` deep. Types are written with them. -/
inductive Expression.WritesType : Nat → Expression → Prop where
  | identifier {depth} (name : String) : WritesType (depth + 1) (.identifier name)
  | datum {depth} (value : Datum) : WritesType (depth + 1) (.datum value)
  | ellipsis {depth} : WritesType (depth + 1) .ellipsis
  | member {depth base} (name : String) :
      WritesType depth base → WritesType (depth + 1) (.member base name)
  | part {depth base index} :
      WritesType depth base → WritesType depth index → WritesType (depth + 1) (.part base index)
  | tuple {depth items} :
      (∀ item ∈ items, WritesType depth item) → WritesType (depth + 1) (.tuple items)
  | list {depth items} :
      (∀ item ∈ items, WritesType depth item) → WritesType (depth + 1) (.list items)
  | operation {depth left right} (operation : Operation) :
      WritesType depth left → WritesType depth right →
      WritesType (depth + 1) (.operation operation left right)

namespace Evaluation

private theorem itemsOf_congr {inner deeper : Inner} {items : List Expression}
    (same : ∀ item ∈ items, inner.value item = deeper.value item ∧
      ∀ spread, item ≠ .spread spread) :
    itemsOf inner items = itemsOf deeper items := by
  induction items with
  | nil => rfl
  | cons item rest ih =>
      obtain ⟨⟨here, single⟩, later⟩ := List.forall_mem_cons.mp same
      rw [itemsOf, itemsOf, here, ih later]
      · exact single
      · exact single

/-- Evaluation goes deep enough for every type that is written less deep. -/
theorem value_eq_of_writesType {depth fuel : Nat} {expression : Expression}
    (writes : expression.WritesType depth) (deep : depth ≤ fuel) :
    (ofDepth fuel).value expression = (ofDepth depth).value expression := by
  induction writes generalizing fuel with
  | identifier | datum | ellipsis =>
      cases fuel with
      | zero => omega
      | succ fuel => rfl
  | member name _ ih =>
      cases fuel with
      | zero => omega
      | succ fuel =>
          change ((ofDepth fuel).value _ >>= fun base => _) = _
          rw [ih (Nat.le_of_succ_le_succ deep)]
          rfl
  | part _ _ baseIH indexIH | operation _ _ _ baseIH indexIH =>
      cases fuel with
      | zero => omega
      | succ fuel =>
          change ((ofDepth fuel).value _ >>= fun base => (ofDepth fuel).value _ >>= _) = _
          rw [baseIH (Nat.le_of_succ_le_succ deep), indexIH (Nat.le_of_succ_le_succ deep)]
          rfl
  | tuple inside ih | list inside ih =>
      cases fuel with
      | zero => omega
      | succ fuel =>
          refine congrArg (Functor.map _) (itemsOf_congr fun item member => ?_)
          refine ⟨ih item member (Nat.le_of_succ_le_succ deep), fun spread isSpread => ?_⟩
          subst isSpread
          exact nomatch inside _ member

end Evaluation

namespace Meaning

open Evaluation (UpToDepth)

mutual

private theorem resolveWith_upToDepth {resolveText further : String → Evaluation Meaning}
    (same : ∀ content, UpToDepth (resolveText content) (further content)) (meaning : Meaning) :
    UpToDepth (resolveWith resolveText meaning) (resolveWith further meaning) := by
  cases meaning with
  | datum value =>
      cases value with
      | text content => exact same content
      | _ => exact .refl _
  | applied generic name arguments =>
      exact .next fun _ => (resolveAllWith_upToDepth same arguments).bind fun _ => .refl _
  | either generic members =>
      exact (resolveAllWith_upToDepth same members).bind fun _ => .refl _
  | spread item => exact (resolveWith_upToDepth same item).bind fun _ => .refl _
  | _ => exact .refl _

private theorem resolveAllWith_upToDepth {resolveText further : String → Evaluation Meaning}
    (same : ∀ content, UpToDepth (resolveText content) (further content)) (items : List Meaning) :
    UpToDepth (resolveAllWith resolveText items) (resolveAllWith further items) := by
  cases items with
  | nil => exact .refl _
  | cons item rest =>
      exact (resolveWith_upToDepth same item).bind fun _ =>
        (resolveAllWith_upToDepth same rest).bind fun _ => .refl _

end

private theorem ofText_succ (fuel : Nat) (around : List String) (content : String) :
    UpToDepth (ofText fuel around content) (ofText (fuel + 1) around content) := by
  induction fuel generalizing around content with
  | zero => exact .tooDeep _
  | succ fuel ih =>
      refine .next fun _ => .choose (.refl _) (.next fun _ => .next fun checked => ?_)
      exact resolveWith_upToDepth (fun other => ih (content :: around) other) checked

theorem ofText_le {fuel more : Nat} (longer : fuel ≤ more) (around : List String)
    (content : String) : UpToDepth (ofText fuel around content) (ofText more around content) := by
  induction longer with
  | refl => exact .refl _
  | @step more _ ih => exact ih.trans (ofText_succ more around content)

end Meaning

end DerivedQuery
