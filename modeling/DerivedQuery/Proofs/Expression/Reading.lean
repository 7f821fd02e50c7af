import DerivedQuery.Proofs.Expression.Weight

/-!
# Reading deep enough

The expressions of a text lie within each other less deep than the text is read. What a reader does
depends on the readers within it only as far as the tokens that are left go, of which a text has no
more than characters; every four levels take a token at least.
-/

set_option autoImplicit false

namespace DerivedQuery

/-- The weight of the tokens that are left. -/
def ReaderState.weight (state : ReaderState) : Nat := Token.weights state.tokens

namespace Reader

variable {α β : Type} {weight : Nat}

/-- From the state on both readers do the same, and leave no more tokens than there are. -/
def AgreeAt (state : ReaderState) (shallow deep : Reader α) : Prop :=
  shallow state = deep state ∧
    ∀ found next, shallow state = some (found, next) → next.weight ≤ state.weight

/-- Readers that agree wherever the tokens that are left weigh no more than `weight`. -/
def Agree (weight : Nat) (shallow deep : Reader α) : Prop :=
  ∀ state, state.weight ≤ weight → AgreeAt state shallow deep

namespace Agree

variable {shallow deep : Reader α}

theorem mono {less : Nat} (agree : Agree weight shallow deep) (fewer : less ≤ weight) :
    Agree less shallow deep :=
  fun state within => agree state (within.trans fewer)

theorem refl_left (agree : Agree weight shallow deep) : Agree weight shallow shallow :=
  fun state within => ⟨rfl, (agree state within).2⟩

theorem trans {deepest : Reader α} (first : Agree weight shallow deep)
    (second : Agree weight deep deepest) : Agree weight shallow deepest :=
  fun state within =>
    ⟨(first state within).1.trans (second state within).1, (first state within).2⟩

theorem pure (found : α) : Agree weight (pure found) (pure found) := by
  intro state _
  refine ⟨rfl, fun other next same => ?_⟩
  obtain ⟨-, rfl⟩ := Prod.mk.inj (Option.some.inj same)
  exact le_rfl

theorem fail : Agree (α := α) weight failure failure :=
  fun _ _ => ⟨rfl, nofun⟩

theorem bind {next further : α → Reader β} (first : Agree weight shallow deep)
    (second : ∀ found, Agree weight (next found) (further found)) :
    Agree weight (shallow >>= next) (deep >>= further) := by
  intro state within
  obtain ⟨same, keeps⟩ := first state within
  change (shallow state >>= fun found => next found.1 found.2) =
    (deep state >>= fun found => further found.1 found.2) ∧ ∀ found after,
      (shallow state >>= fun found => next found.1 found.2) = some (found, after) → _
  rw [← same]
  cases read : shallow state with
  | none => exact ⟨rfl, nofun⟩
  | some found =>
      have fewer := keeps found.1 found.2 read
      obtain ⟨sameNext, keepsNext⟩ := second found.1 found.2 (fewer.trans within)
      exact ⟨sameNext, fun other after readNext => (keepsNext other after readNext).trans fewer⟩

theorem choose {condition : Prop} [Decidable condition] {shallowElse deepElse : Reader α}
    (holds : Agree weight shallow deep) (fails : Agree weight shallowElse deepElse) :
    Agree weight (if condition then shallow else shallowElse)
      (if condition then deep else deepElse) := by
  split
  · exact holds
  · exact fails

/-- Where a check fails nothing follows. -/
theorem checked {condition : Prop} [Decidable condition] {rest further : Unit → Reader α}
    (holds : Agree weight (rest ()) (further ())) :
    Agree weight (if condition then failure >>= rest else rest ())
      (if condition then failure >>= further else further ()) :=
  .choose (fail.bind fun _ => holds) holds

theorem joined {condition : Prop} [Decidable condition] {shallowElse deepElse : Reader α}
    {next further : α → Reader β} (holds : Agree weight shallow deep)
    (fails : Agree weight shallowElse deepElse)
    (second : ∀ found, Agree weight (next found) (further found)) :
    Agree weight (if condition then shallow >>= next else shallowElse >>= next)
      (if condition then deep >>= further else deepElse >>= further) :=
  .choose (holds.bind second) (fails.bind second)

theorem map (f : α → β) (agree : Agree weight shallow deep) :
    Agree weight (f <$> shallow) (f <$> deep) :=
  agree.bind fun found => pure (f found)

end Agree

/-! ## Tokens -/

private theorem agree_get : Agree weight (get : Reader ReaderState) get := by
  intro state _
  refine ⟨rfl, fun found next same => ?_⟩
  obtain ⟨-, rfl⟩ := Prod.mk.inj (Option.some.inj same)
  exact le_rfl

private theorem agree_modify {change : ReaderState → ReaderState}
    (keeps : ∀ state, (change state).weight ≤ state.weight) :
    Agree weight (modify change : Reader Unit) (modify change) := by
  intro state _
  refine ⟨rfl, fun found next same => ?_⟩
  obtain ⟨-, rfl⟩ := Prod.mk.inj (Option.some.inj same)
  exact keeps state

/-- A change of the state that leaves its tokens alone. -/
private theorem agree_update {α : Type} {change : ReaderState → ReaderState}
    {next further : ReaderState → Reader α}
    (keeps : ∀ state, (change state).weight ≤ state.weight)
    (second : ∀ state, Agree weight (next state) (further state)) :
    Agree weight (get >>= fun state => set (change state) >>= fun _ => next state)
      (get >>= fun state => set (change state) >>= fun _ => further state) := by
  intro state within
  obtain ⟨same, fewer⟩ := second state (change state) ((keeps state).trans within)
  exact ⟨same, fun found after read => (fewer found after read).trans (keeps state)⟩

private theorem agree_tokens : Agree weight tokens tokens :=
  agree_get.bind fun state => .pure state.tokens

private theorem agree_limit : Agree weight limit limit :=
  agree_get.bind fun state => .pure state.limit

private theorem agree_drop (count : Nat) : Agree weight (drop count) (drop count) :=
  agree_modify fun state => Token.weights_drop_le state.tokens count

private theorem agree_isNext (mark : String) : Agree weight (isNext mark) (isNext mark) :=
  agree_tokens.bind fun _ => .pure _

private theorem agree_skip (mark : String) : Agree weight (skip mark) (skip mark) := by
  refine (agree_isNext mark).bind fun found => ?_
  exact .choose ((agree_drop 1).bind fun _ => .pure found) (.pure found)

private theorem agree_expect (mark : String) : Agree weight (expect mark) (expect mark) :=
  (agree_skip mark).bind fun _ => .choose .fail (.pure ())

private theorem agree_name : Agree weight name name := by
  refine agree_tokens.bind fun found => ?_
  split
  · exact (agree_drop 1).bind fun _ => .pure _
  · exact .fail

private theorem agree_settableName : Agree weight settableName settableName :=
  agree_name.bind fun _ => .choose .fail (.pure _)

private theorem agree_isNameBefore (mark : String) :
    Agree weight (isNameBefore mark) (isNameBefore mark) := by
  refine agree_tokens.bind fun found => ?_
  split
  · exact .pure _
  · exact .pure _

/-- What a reader does may depend on the tokens that are left. -/
private theorem agree_peeking {α : Type} {next further : List Token → Reader α}
    (second : ∀ state, state.weight ≤ weight →
      AgreeAt state (next state.tokens) (further state.tokens)) :
    Agree weight (tokens >>= next) (tokens >>= further) :=
  fun state within => second state within

private theorem agreeAt_limit {α : Type} {state : ReaderState} {next further : Nat → Reader α}
    (second : ∀ bound, AgreeAt state (next bound) (further bound)) :
    AgreeAt state (limit >>= next) (limit >>= further) :=
  second state.limit

/-- What follows a token that is taken is read with less weight. -/
private theorem agreeAt_drop {α : Type} {state : ReaderState} {token : Token}
    {next further : Reader α} (head : state.tokens.head? = some token)
    (second : ∀ less, less < state.weight → Agree less next further) :
    AgreeAt state (drop 1 >>= fun _ => next) (drop 1 >>= fun _ => further) := by
  have fewer : ReaderState.weight { state with tokens := state.tokens.drop 1 } < state.weight :=
    Token.weights_drop_one_lt head
  obtain ⟨same, keeps⟩ := second _ fewer { state with tokens := state.tokens.drop 1 } le_rfl
  exact ⟨same, fun found after read => (keeps found after read).trans fewer.le⟩

private theorem skip_eq (mark : String) (state : ReaderState) :
    skip mark state =
      if state.tokens.head? == some (.symbol mark) then
        some (true, { state with tokens := state.tokens.drop 1 })
      else some (false, state) := by
  change (if state.tokens.head? == some (.symbol mark) then drop 1 >>= fun _ => pure _
    else pure _ : Reader Bool) state = _
  cases state.tokens.head? == some (.symbol mark) <;> rfl

private theorem agree_skipping {mark : String} {α : Type} {taken takenDeep left leftDeep : Reader α}
    (takes : ∀ less, less < weight → Agree less taken takenDeep)
    (leaves : Agree weight left leftDeep) :
    Agree weight (skip mark >>= fun found => if found = true then taken else left)
      (skip mark >>= fun found => if found = true then takenDeep else leftDeep) := by
  intro state within
  have skipped (yes no : Reader α) :
      (skip mark >>= fun found => if found = true then yes else no) state =
        if state.tokens.head? == some (.symbol mark) then (drop 1 >>= fun _ => yes) state
        else no state := by
    change (skip mark state >>= fun found => _) = _
    rw [skip_eq]
    cases state.tokens.head? == some (.symbol mark) <;> rfl
  unfold AgreeAt
  rw [skipped, skipped]
  cases next : state.tokens.head? == some (.symbol mark) with
  | true =>
      exact agreeAt_drop (beq_iff_eq.mp next) fun less fewer => takes less (fewer.trans_le within)
  | false => exact leaves state within

section

variable {inner deeper : Inner}

/-- All readers of one kind agree with those of the other one. -/
def Inner.Agree (weight : Nat) (inner deeper : Inner) : Prop :=
  ∀ kind, Reader.Agree weight (inner kind) (deeper kind)

/-! ## Items -/

private theorem agree_items {item further : Reader Expression} (same : Agree weight item further)
    (closing : String) (bound : Nat) :
    Agree weight (items item closing bound) (items further closing bound) := by
  induction bound with
  | zero => exact .fail
  | succ bound ih =>
      refine (agree_isNext closing).bind fun _ => .choose (.pure _) ?_
      refine same.bind fun _ => (agree_skip ",").bind fun _ => .choose ?_ (.pure _)
      exact ih.bind fun _ => .pure _

private theorem agree_itemsUpTo {item further : Reader Expression}
    (same : Agree weight item further) (closing : String) :
    Agree weight (itemsUpTo item closing) (itemsUpTo further closing) := by
  refine agree_limit.bind fun bound => (agree_items same closing bound).bind fun _ => ?_
  exact (agree_expect closing).bind fun _ => .pure _

/-! ## Operations -/

private theorem agree_operation? (level : List Operation) :
    Agree weight (operation? level) (operation? level) := by
  refine agree_tokens.bind fun found => ?_
  split
  · split
    · exact (agree_drop 1).bind fun _ => .pure _
    · exact .pure _
  · exact .pure _

private theorem agree_operations {operand further : Reader Expression}
    (same : Agree weight operand further) (level : List Operation) (bound : Nat)
    (left : Expression) :
    Agree weight (operations level operand bound left) (operations level further bound left) := by
  induction bound generalizing left with
  | zero => exact .fail
  | succ bound ih =>
      refine (agree_operation? level).bind fun found => ?_
      cases found with
      | none => exact .pure _
      | some operation => exact same.bind fun right => ih _

private theorem agree_leveled {factor further : Reader Expression}
    (same : Agree weight factor further) (levels : List (List Operation)) :
    Agree weight (leveled factor levels) (leveled further levels) := by
  induction levels with
  | nil => exact same
  | cons level tighter ih =>
      exact ih.bind fun first => agree_limit.bind fun bound => agree_operations ih level bound first

private theorem agree_operand (same : Agree weight (inner .factor) (deeper .factor)) :
    Agree weight (operand inner) (operand deeper) :=
  agree_leveled same Operation.levels

private theorem agree_relation? : Agree weight relation? relation? := by
  refine agree_tokens.bind fun found => ?_
  split
  · exact (agree_drop 2).bind fun _ => .pure _
  · exact (agree_drop 2).bind fun _ => .pure _
  · exact (agree_drop 1).bind fun _ => .pure _
  · split
    · exact (agree_drop 1).bind fun _ => .pure _
    · exact .pure _
  · exact .pure _

private theorem agree_relations {operand further : Reader Expression}
    (same : Agree weight operand further) (bound : Nat) :
    Agree weight (relations operand bound) (relations further bound) := by
  induction bound with
  | zero => exact .fail
  | succ bound ih =>
      refine agree_relation?.bind fun found => ?_
      cases found with
      | none => exact .pure _
      | some relation => exact same.bind fun _ => ih.bind fun _ => .pure _

private theorem agree_comparison (same : Agree weight (inner .factor) (deeper .factor)) :
    Agree weight (comparison inner) (comparison deeper) := by
  have operands := agree_operand same
  refine operands.bind fun _ => agree_limit.bind fun bound => ?_
  exact (agree_relations operands bound).bind fun _ => .pure _

private theorem agree_chain {operand further : Reader Expression}
    (same : Agree weight operand further) (word : String)
    (combine : Expression → Expression → Expression) (bound : Nat) :
    Agree weight (chain word combine operand bound) (chain word combine further bound) := by
  induction bound with
  | zero => exact .fail
  | succ bound ih =>
      refine same.bind fun _ => (agree_skip word).bind fun _ => .choose ?_ (.pure _)
      exact ih.bind fun _ => .pure _

private theorem agree_disjunction (same : Agree weight (inner .inversion) (deeper .inversion)) :
    Agree weight (disjunction inner) (disjunction deeper) :=
  agree_limit.bind fun bound => agree_chain (agree_chain same "and" .both bound) "or" .either bound

/-! ## Gatherings -/

section

variable (same : inner.Agree weight deeper)

include same

private theorem agree_assignment : Agree weight (assignment inner) (assignment deeper) := by
  refine agree_settableName.bind fun _ => (agree_expect ":=").bind fun _ => ?_
  refine (same .expression).bind fun _ => ?_
  refine (agree_modify fun state => ?_).bind fun _ => .pure _
  exact le_rfl

private theorem agree_maybeAssigned : Agree weight (maybeAssigned inner) (maybeAssigned deeper) :=
  (agree_isNameBefore ":=").bind fun _ => .choose (agree_assignment same) (same .expression)

private theorem agree_item : Agree weight (item inner) (item deeper) :=
  (agree_skip "*").bind fun _ =>
    .choose ((agree_operand (same .factor)).bind fun _ => .pure _) (agree_maybeAssigned same)

omit same in
private theorem agree_withoutAssignment {reader further : Reader Expression}
    (same : Agree weight reader further) :
    Agree weight (withoutAssignment reader) (withoutAssignment further) :=
  agree_get.bind fun _ => same.bind fun _ => agree_get.bind fun _ => .choose (.pure _) .fail

omit same in
private theorem agree_withoutSuspension {reader further : Reader Expression}
    (same : Agree weight reader further) :
    Agree weight (withoutSuspension reader) (withoutSuspension further) :=
  agree_get.bind fun _ => same.bind fun _ => agree_get.bind fun _ => .choose (.pure _) .fail

private theorem agree_conditions (bound : Nat) :
    Agree weight (conditions inner bound) (conditions deeper bound) := by
  induction bound with
  | zero => exact .fail
  | succ bound ih =>
      refine (agree_skip "if").bind fun _ => .choose ?_ (.pure _)
      refine (agree_withoutSuspension (agree_disjunction (same .inversion))).bind fun _ => ?_
      exact ih.bind fun _ => .pure _

private theorem agree_targets : Agree weight (targets inner) (targets deeper) := by
  refine (agree_itemsUpTo ?_ "in").bind fun found => ?_
  · exact (agree_skip "*").bind fun _ =>
      .choose ((same .primary).bind fun _ => .pure _) (same .primary)
  · obtain ⟨items, comma⟩ := found
    dsimp only
    split
    · exact .fail
    · exact .fail
    · exact .pure _

private theorem agree_clauses (first : Bool) (bound : Nat) :
    Agree weight (clauses inner first bound) (clauses deeper first bound) := by
  have source := agree_disjunction (same .inversion)
  induction bound generalizing first with
  | zero => exact .fail
  | succ bound ih =>
      refine (agree_skip "for").bind fun _ => .choose ?_ (.pure _)
      refine (agree_targets same).bind fun _ => (agree_withoutAssignment ?_).bind fun _ => ?_
      · exact .choose source (agree_withoutSuspension source)
      · refine agree_limit.bind fun more => (agree_conditions same more).bind fun _ => ?_
        exact (ih false).bind fun _ => .pure _

private theorem agree_gathering (kind : Gathering) (before : ReaderState) (item : Expression) :
    Agree weight (gathering inner kind before item) (gathering deeper kind before item) := by
  refine agree_get.bind fun state => .checked (agree_limit.bind fun bound => ?_)
  refine (agree_clauses same true bound).bind fun found => agree_get.bind fun later => ?_
  dsimp only
  split
  · exact .choose .fail (.pure _)
  · exact .fail

/-! ## Functions -/

omit same in
private theorem agree_parameterEnd : Agree weight parameterEnd parameterEnd :=
  (agree_skip ",").bind fun _ => (agree_isNext ":").bind fun _ => .choose .fail (.pure ())

private theorem agree_parameters (bound : Nat) (found : List Parameter) (closed named : Bool) :
    Agree weight (parameters inner bound found closed named)
      (parameters deeper bound found closed named) := by
  induction bound generalizing found closed named with
  | zero => exact .fail
  | succ bound ih =>
      refine (agree_isNext ":").bind fun _ => .choose (.pure _) ?_
      refine (agree_skip "**").bind fun _ => .choose ?_ ?_
      · refine agree_settableName.bind fun _ => agree_parameterEnd.bind fun _ => ?_
        exact (agree_isNext ":").bind fun _ => .choose (.pure _) .fail
      refine (agree_skip "*").bind fun _ => .choose (.checked ?_) ?_
      · refine (agree_skip ",").bind fun _ => .choose (agree_tokens.bind fun left => ?_) ?_
        · split
          · exact ih found closed true
          · exact .fail
        · exact agree_settableName.bind fun _ => agree_parameterEnd.bind fun _ => ih _ _ _
      refine (agree_skip "/").bind fun _ => .choose (.checked ?_) ?_
      · exact agree_parameterEnd.bind fun _ => ih _ _ _
      · refine agree_settableName.bind fun word => (agree_skip "=").bind fun _ => ?_
        refine .joined ((same .expression).map some) (.pure none) fun fallback => ?_
        refine agree_parameterEnd.bind fun _ => .checked ?_
        exact (ih _ _ _).bind fun _ => .pure _

private theorem agree_function : Agree weight (function inner) (function deeper) := by
  refine agree_limit.bind fun bound => (agree_parameters same bound [] false false).bind ?_
  intro found
  refine (agree_expect ":").bind fun _ => .checked (agree_update (fun _ => le_rfl) fun outer => ?_)
  refine (same .expression).bind fun body => agree_update (fun _ => le_rfl) fun within => .pure _

private theorem agree_suspension : Agree weight (suspension inner) (suspension deeper) := by
  have starred : Agree weight
      (do if ← skip "*" then operand inner else inner .expression)
      (do if ← skip "*" then operand deeper else deeper .expression) :=
    (agree_skip "*").bind fun _ => .choose (agree_operand (same .factor)) (same .expression)
  refine (agree_skip "from").bind fun _ => .choose (((same .expression).map _).bind fun _ => ?_)
    (agree_limit.bind fun bound => (agree_items starred ")" bound).bind fun found =>
      .checked ?_)
  all_goals
    refine agree_get.bind fun state => ?_
    split
    · refine (agree_modify fun state => ?_).bind fun _ => .pure _
      exact le_rfl
    · exact .fail

/-! ## Parts and calls -/

private theorem agree_index : Agree weight (index inner) (index deeper) := by
  have given : Agree weight
      (do
        if (← isNext ":") || (← isNext "]") || (← isNext ",") then pure .null
        else inner .expression)
      (do
        if (← isNext ":") || (← isNext "]") || (← isNext ",") then pure .null
        else deeper .expression) :=
    (agree_isNext ":").bind fun _ => (agree_isNext "]").bind fun _ => (agree_isNext ",").bind
      fun _ => .choose (.pure _) (same .expression)
  refine (agree_skip "*").bind fun _ => .choose ((same .expression).bind fun _ => .pure _) ?_
  refine (agree_isNameBefore ":=").bind fun _ => .choose (agree_assignment same) ?_
  refine (agree_isNext ":").bind fun _ => .joined (.pure _) (same .expression) fun first => ?_
  refine (agree_skip ":").bind fun _ => .choose (given.bind fun last => ?_) (.pure _)
  exact (agree_skip ":").bind fun _ => .joined given (.pure _) fun _ => .pure _

private theorem agree_arguments (bound : Nat) (state : ArgumentState) :
    Agree weight (arguments inner bound state) (arguments deeper bound state) := by
  induction bound generalizing state with
  | zero => exact .fail
  | succ bound ih =>
      have goOn (state : ArgumentState) (argument : Expression) : Agree weight
          (do
            if ← skip "," then do
              let others ← arguments inner bound state
              pure (argument :: others)
            else do
              expect ")"
              pure [argument])
          (do
            if ← skip "," then do
              let others ← arguments deeper bound state
              pure (argument :: others)
            else do
              expect ")"
              pure [argument]) :=
        (agree_skip ",").bind fun _ => .choose ((ih state).bind fun _ => .pure _)
          ((agree_expect ")").bind fun _ => .pure _)
      refine (agree_skip ")").bind fun _ => .choose (.pure _) ?_
      refine (agree_skip "**").bind fun _ => .choose ((same .expression).bind fun _ => goOn _ _) ?_
      refine (agree_skip "*").bind fun _ => .choose (.checked ?_) ?_
      · exact (same .expression).bind fun _ => goOn _ _
      refine (agree_isNameBefore "=").bind fun _ => .choose ?_ (.checked ?_)
      · refine agree_settableName.bind fun _ => (agree_expect "=").bind fun _ => .checked ?_
        exact (same .expression).bind fun _ => goOn _ _
      · exact (agree_maybeAssigned same).bind fun _ => goOn _ _

private theorem agree_callArguments : Agree weight (callArguments inner) (callArguments deeper) := by
  refine agree_get.bind fun before => (agree_isNext "*").bind fun _ => (agree_isNext "**").bind
    fun _ => (agree_isNext ")").bind fun _ => (agree_isNameBefore "=").bind fun _ => ?_
  refine .choose (agree_limit.bind fun bound => agree_arguments same bound {}) ?_
  refine (agree_maybeAssigned same).bind fun first => (agree_isNext "for").bind fun _ => ?_
  refine .choose ((agree_gathering same .generator before first).bind fun _ => ?_) ?_
  · exact (agree_expect ")").bind fun _ => .pure _
  refine (agree_skip ",").bind fun _ => .choose (agree_limit.bind fun bound => ?_) ?_
  · exact (agree_arguments same bound {}).bind fun _ => .pure _
  · exact (agree_expect ")").bind fun _ => .pure _

/-! ## Single values -/

private theorem agree_group : Agree weight (group inner) (group deeper) := by
  refine agree_get.bind fun before => (agree_skip ")").bind fun _ => .choose (.pure _) ?_
  refine (agree_skip "yield").bind fun _ => .choose ?_ ?_
  · exact (agree_suspension same).bind fun _ => (agree_expect ")").bind fun _ => .pure _
  refine (agree_item same).bind fun first => (agree_isNext "for").bind fun _ => .choose ?_ ?_
  · refine (agree_gathering same .generator before first).bind fun _ => ?_
    exact (agree_expect ")").bind fun _ => .pure _
  refine (agree_skip ",").bind fun _ => .choose ?_ ?_
  · exact (agree_itemsUpTo (agree_item same) ")").bind fun _ => .pure _
  · exact (agree_expect ")").bind fun _ => .choose .fail (.pure _)

private theorem agree_list : Agree weight (list inner) (list deeper) := by
  refine agree_get.bind fun before => (agree_skip "]").bind fun _ => .choose (.pure _) ?_
  refine (agree_item same).bind fun first => (agree_isNext "for").bind fun _ => .choose ?_ ?_
  · refine (agree_gathering same .list before first).bind fun _ => ?_
    exact (agree_expect "]").bind fun _ => .pure _
  refine (agree_skip ",").bind fun _ => .choose ?_ ?_
  · exact (agree_itemsUpTo (agree_item same) "]").bind fun _ => .pure _
  · exact (agree_expect "]").bind fun _ => .pure _

private theorem agree_dictionaryItem :
    Agree weight (dictionaryItem inner) (dictionaryItem deeper) := by
  refine (agree_skip "**").bind fun _ => .choose ?_ ?_
  · exact (agree_operand (same .factor)).bind fun _ => .pure _
  · refine (same .expression).bind fun _ => (agree_expect ":").bind fun _ => ?_
    exact (same .expression).bind fun _ => .pure _

private theorem agree_braced : Agree weight (braced inner) (braced deeper) := by
  have closes : Agree weight (expect "\x7d") (expect "\x7d") := agree_expect _
  have gathered (kind : Gathering) (before : ReaderState) (item : Expression) :=
    (agree_gathering same kind before item).bind fun found => closes.bind fun _ => .pure found
  refine agree_get.bind fun before => (agree_skip _).bind fun _ => .choose (.pure _) ?_
  refine (agree_isNext "**").bind fun _ => .choose ?_ ?_
  · exact (agree_itemsUpTo (agree_dictionaryItem same) _).bind fun _ => .pure _
  refine (agree_isNameBefore ":=").bind fun _ => (agree_item same).bind fun first => ?_
  refine (agree_isNext ":").bind fun _ => .choose ?_ ?_
  · refine (agree_expect ":").bind fun _ => (same .expression).bind fun value => ?_
    refine (agree_isNext "for").bind fun _ => .choose (gathered .dictionary before _) ?_
    refine (agree_skip ",").bind fun _ => .choose ?_ ?_
    · exact (agree_itemsUpTo (agree_dictionaryItem same) _).bind fun _ => .pure _
    · exact (agree_expect _).bind fun _ => .pure _
  · refine (agree_isNext "for").bind fun _ => .choose (gathered .set before first) ?_
    refine (agree_skip ",").bind fun _ => .choose ?_ ?_
    · exact (agree_itemsUpTo (agree_item same) _).bind fun _ => .pure _
    · exact (agree_expect _).bind fun _ => .pure _

end

private theorem agree_suffixes (below : ∀ less, less < weight → inner.Agree less deeper)
    (bound : Nat) (base : Expression) :
    Agree weight (suffixes inner bound base) (suffixes deeper bound base) := by
  induction bound generalizing weight base with
  | zero => exact .fail
  | succ bound ih =>
      have after {less : Nat} (fewer : less < weight) (base : Expression) :
          Agree less (suffixes inner bound base) (suffixes deeper bound base) :=
        ih (fun lesser lower => below lesser (lower.trans fewer)) base
      refine agree_skipping (fun less fewer => ?_) (agree_skipping (fun less fewer => ?_)
        (agree_skipping (fun less fewer => ?_) (.pure base)))
      · exact agree_name.bind fun _ => after fewer _
      · refine (agree_itemsUpTo (agree_index (below less fewer)) "]").bind fun found => ?_
        obtain ⟨items, comma⟩ := found
        dsimp only
        split
        · exact .fail
        · exact after fewer _
        · exact after fewer _
      · exact (agree_callArguments (below less fewer)).bind fun _ => after fewer _

/-- A place is read by itself, whatever stands behind it. -/
private theorem place_eq (inner : Inner) {content : List Char} {found : List Token}
    (spelled : Token.ofText? ("(" ++ String.ofList content ++ ")") = some found)
    (state : ReaderState) :
    place inner content state =
      (inner .primary { state with
        tokens := found, limit := max state.limit (found.length + 1) }).bind fun read =>
          if read.2.tokens.isEmpty then some (read.1, { read.2 with tokens := state.tokens })
          else none := by
  unfold place
  rw [spelled]
  refine congrArg (Option.bind _) (funext fun read => ?_)
  change (if !read.2.tokens.isEmpty then failure >>= fun _ => _ else _ : Reader Expression) read.2 =
    _
  cases read.2.tokens.isEmpty <;> rfl

private theorem agree_place {less : Nat} (same : inner.Agree less deeper) {content : List Char}
    (fits : content.length + 2 ≤ less) (weight : Nat) :
    Agree weight (place inner content) (place deeper content) := by
  cases spelled : Token.ofText? ("(" ++ String.ofList content ++ ")") with
  | none =>
      unfold place
      rw [spelled]
      exact .fail
  | some found =>
      have size : ("(" ++ String.ofList content ++ ")").length = content.length + 2 := by
        have opening : "(".length = 1 := rfl
        have closing : ")".length = 1 := rfl
        simp only [String.length_append, String.length_ofList, opening, closing]
        omega
      have light := (Token.weights_ofText? spelled).trans (size.le.trans fits)
      intro state _
      obtain ⟨agreed, -⟩ := same .primary
        { state with tokens := found, limit := max state.limit (found.length + 1) } light
      refine ⟨by rw [place_eq inner spelled, place_eq deeper spelled, agreed], ?_⟩
      intro expression next read
      rw [place_eq inner spelled] at read
      obtain ⟨last, -, ended⟩ := Option.bind_eq_some_iff.mp read
      split at ended
      · obtain ⟨-, rfl⟩ := Prod.mk.inj (Option.some.inj ended)
        exact le_rfl
      · exact nomatch ended

private theorem agree_joinedPieces_of {pieces : List JoinedPiece}
    (each : ∀ piece ∈ pieces, Agree weight (joinedPiece inner piece) (joinedPiece deeper piece)) :
    Agree weight (joinedPieces inner pieces) (joinedPieces deeper pieces) := by
  induction pieces with
  | nil => exact .pure _
  | cons piece rest ih =>
      obtain ⟨here, later⟩ := List.forall_mem_cons.mp each
      exact here.bind fun _ => (ih later).bind fun _ => .pure _

private theorem agree_joinedPiece {less : Nat} (same : inner.Agree less deeper)
    {piece : JoinedPiece} (inside : piece.Within less) (weight : Nat) :
    Agree weight (joinedPiece inner piece) (joinedPiece deeper piece) := by
  induction inside with
  | plain content => exact .pure _
  | place label conversion fits _ ih =>
      refine (agree_place same fits weight).bind fun _ => ?_
      exact (agree_joinedPieces_of ih).bind fun _ => .pure _

private theorem agree_texts (below : ∀ less, less < weight → inner.Agree less deeper)
    (bound : Nat) : Agree weight (texts inner bound) (texts deeper bound) := by
  induction bound generalizing weight with
  | zero => exact .fail
  | succ bound ih =>
      refine agree_peeking fun state within => ?_
      cases head : state.tokens.head? with
      | none => exact (Agree.pure []) state within
      | some token =>
          have after {less : Nat} (fewer : less < state.weight) :
              Agree less (texts inner bound) (texts deeper bound) :=
            ih fun lesser lower => below lesser (lower.trans (fewer.trans_le within))
          cases token with
          | text content =>
              exact agreeAt_drop head fun less fewer => (after fewer).bind fun _ => .pure _
          | template raw content =>
              have less : content.length < weight :=
                (Token.weight_le_weights head).trans within
              refine agreeAt_drop head fun lesser fewer => ?_
              split
              · exact .fail
              · rename_i pieces spelled
                have inside := JoinedPiece.within_ofText? spelled
                refine (agree_joinedPieces_of fun piece member =>
                  agree_joinedPiece (below _ less) (inside piece member) lesser).bind fun _ => ?_
                exact (after fewer).bind fun _ => .pure _
          | bytes content => exact Agree.fail state within
          | _ => exact (Agree.pure []) state within

private theorem agree_byteStrings (bound : Nat) :
    Agree weight (byteStrings bound) (byteStrings bound) := by
  induction bound with
  | zero => exact .fail
  | succ bound ih =>
      refine agree_tokens.bind fun left => ?_
      split
      · exact (agree_drop 1).bind fun _ => ih.bind fun _ => .pure _
      · exact .fail
      · exact .fail
      · exact .pure _

private theorem agree_single (below : ∀ less, less < weight → inner.Agree less deeper) :
    Agree weight (single inner) (single deeper) := by
  refine agree_peeking fun state within => ?_
  refine agreeAt_limit fun bound => ?_
  cases head : state.tokens.head? with
  | none => exact Agree.fail state within
  | some token =>
      cases token with
      | name | integer | real | imaginary => exact agreeAt_drop head fun _ _ => .pure _
      | text | template => exact (agree_texts below bound).map _ state within
      | bytes => exact ((agree_byteStrings bound).bind fun _ => .pure _) state within
      | symbol mark =>
          refine agreeAt_drop head fun less fewer => ?_
          have same := below less (fewer.trans_le within)
          split
          · exact .pure _
          · exact .pure _
          · exact .pure _
          · exact .pure _
          · exact agree_group same
          · exact agree_list same
          · exact agree_braced same
          · exact .fail

private theorem agree_factor (below : ∀ less, less < weight → inner.Agree less deeper)
    (primary : Agree weight (inner .primary) (deeper .primary)) :
    Agree weight (factor inner) (factor deeper) := by
  have power : Agree weight (factor.power inner) (factor.power deeper) :=
    primary.bind fun base => agree_skipping
      (fun less fewer => (below less fewer .factor).bind fun _ => .pure _) (.pure base)
  refine agree_peeking fun state within => ?_
  cases head : state.tokens.head? with
  | none => exact power state within
  | some token =>
      cases token with
      | symbol mark =>
          dsimp only
          split
          · refine agreeAt_drop head fun less fewer => ?_
            exact (below less (fewer.trans_le within) .factor).bind fun _ => .pure _
          · exact power state within
      | _ => exact power state within

private theorem agree_choice (below : ∀ less, less < weight → inner.Agree less deeper)
    (inversion : Agree weight (inner .inversion) (deeper .inversion)) :
    Agree weight (choice inner) (choice deeper) := by
  have alternatives := agree_disjunction inversion
  refine alternatives.bind fun positive => agree_skipping (fun less fewer => ?_) (.pure positive)
  refine (alternatives.mono fewer.le).bind fun _ => (agree_expect "else").bind fun _ => ?_
  exact (below less fewer .expression).bind fun _ => .pure _

/-! ## All kinds -/

/-- How many levels may lie between an expression of a kind and the token that it takes. -/
def Kind.rank : Kind → Nat
  | .primary => 0
  | .factor => 1
  | .inversion => 2
  | .expression => 3

private theorem agree_step (below : ∀ less, less < weight → inner.Agree less deeper) (kind : Kind)
    (lower : ∀ other : Kind, other.rank < kind.rank → Agree weight (inner other) (deeper other)) :
    Agree weight (step inner kind) (step deeper kind) := by
  cases kind with
  | expression =>
      exact agree_skipping (fun less fewer => agree_function (below less fewer))
        (agree_choice below (lower .inversion (by decide)))
  | inversion =>
      exact agree_skipping (fun less fewer => (below less fewer .inversion).bind fun _ => .pure _)
        (agree_comparison (lower .factor (by decide)))
  | factor => exact agree_factor below (lower .primary (by decide))
  | primary =>
      exact (agree_single below).bind fun base => agree_limit.bind fun bound =>
        agree_suffixes below bound base

end

/-- Where four levels are left for every token one level more changes nothing. -/
theorem agree_read_succ {fuel weight : Nat} {kind : Kind} (deep : 4 * weight + kind.rank < fuel) :
    Agree weight (read fuel kind) (read (fuel + 1) kind) := by
  induction fuel generalizing weight kind with
  | zero => exact absurd deep (Nat.not_lt_zero _)
  | succ fuel ih =>
      refine agree_step (fun less fewer other => ih ?_) kind fun other lower => ih ?_
      · have highest : other.rank ≤ 3 := by cases other <;> decide
        omega
      · omega

theorem agree_read {fuel more weight : Nat} {kind : Kind} (deep : 4 * weight + kind.rank < fuel)
    (deeper : fuel ≤ more) : Agree weight (read fuel kind) (read more kind) := by
  induction deeper with
  | refl => exact (agree_read_succ deep).refl_left
  | @step more le ih => exact ih.trans (agree_read_succ (deep.trans_le le))

private theorem agree_sequence {item further : Reader Expression}
    (same : Agree weight item further) (bound : Nat) :
    Agree weight (sequence item bound) (sequence further bound) := by
  induction bound with
  | zero => exact .fail
  | succ bound ih =>
      refine same.bind fun _ => (agree_skip ",").bind fun _ => .choose ?_ ?_
      · exact agree_tokens.bind fun _ => .choose (.pure _) (ih.bind fun _ => .pure _)
      · exact agree_tokens.bind fun _ => .choose (.pure _) .fail

end Reader

namespace Expression

/-- Tokens are read deep enough with four levels for each. -/
theorem ofTokens?_eq_of_le {tokens : List Token} {fuel more : Nat}
    (deep : 4 * Token.weights tokens + 4 ≤ fuel) (deeper : fuel ≤ more) :
    ofTokens? fuel tokens = ofTokens? more tokens := by
  have same := Reader.agree_sequence
    (@Reader.agree_read fuel more (Token.weights tokens) .expression deep deeper)
    (tokens.length + 1)
  have run := (same ⟨tokens, tokens.length + 1, [], 0, none⟩ le_rfl).1
  exact congrArg (Option.bind · _) run

/-- Every text is read deep enough. -/
theorem ofText?_eq_of_le {text : String} {fuel : Nat} (deep : depthBound text ≤ fuel) :
    (Token.ofText? text).bind (ofTokens? fuel) = ofText? text := by
  unfold ofText?
  cases spelled : Token.ofText? text with
  | none => rfl
  | some tokens =>
      have light := Token.weights_ofText? spelled
      exact (ofTokens?_eq_of_le (by unfold depthBound; omega) deep).symm

theorem ofWholeText?_eq_of_le {text : String} {fuel : Nat} (deep : depthBound text ≤ fuel) :
    (Token.ofWholeText? text).bind (ofTokens? fuel) = ofWholeText? text := by
  unfold ofWholeText?
  cases spelled : Token.ofWholeText? text with
  | none => rfl
  | some tokens =>
      have light := Token.weights_ofWholeText? spelled
      exact (ofTokens?_eq_of_le (by unfold depthBound; omega) deep).symm

end Expression

end DerivedQuery
