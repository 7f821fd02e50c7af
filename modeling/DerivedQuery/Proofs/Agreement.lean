import DerivedQuery.Proofs.Passes

/-!
# Agreeing outcomes

Two computations agree when both fail with the same fault or both succeed with related results.
Steps that agree one after the other agree as a whole, and so do passes over related lists.
-/

set_option autoImplicit false

namespace DerivedQuery

variable {ε α β γ δ : Type}

inductive Agree (related : α → β → Prop) : Except ε α → Except ε β → Prop where
  | error {fault} : Agree related (.error fault) (.error fault)
  | ok {result other} : related result other → Agree related (.ok result) (.ok other)

namespace Agree

variable {related : α → β → Prop} {further : γ → δ → Prop} {action : Except ε α}
  {other : Except ε β}

theorem bind {next : α → Except ε γ} {nextOther : β → Except ε δ}
    (agree : Agree related action other)
    (agreeNext : ∀ a b, related a b → Agree further (next a) (nextOther b)) :
    Agree further (action >>= next) (other >>= nextOther) := by
  cases agree with
  | error => exact .error
  | ok holds => exact agreeNext _ _ holds

theorem map {f : α → γ} {g : β → δ} (agree : Agree related action other)
    (keeps : ∀ a b, related a b → further (f a) (g b)) :
    Agree further (action.map f) (other.map g) := by
  cases agree with
  | error => exact .error
  | ok holds => exact .ok (keeps _ _ holds)

theorem mapM {f : γ → Except ε α} {g : δ → Except ε β} {items : List γ} {others : List δ}
    (all : List.Forall₂ (fun item other => Agree related (f item) (g other)) items others) :
    Agree (List.Forall₂ related) (items.mapM f) (others.mapM g) := by
  induction all with
  | nil => exact .ok .nil
  | cons here _ ih =>
      rw [List.mapM_cons, List.mapM_cons]
      refine here.bind fun a b holds => ih.bind fun results otherResults rest => ?_
      exact .ok (.cons holds rest)

/-- Agreeing computations fail with one fault or succeed with related results. -/
theorem error_or_ok (agree : Agree related action other) :
    (∃ fault, action = .error fault ∧ other = .error fault) ∨
      ∃ a b, action = .ok a ∧ other = .ok b ∧ related a b := by
  cases agree with
  | error => exact .inl ⟨_, rfl, rfl⟩
  | ok holds => exact .inr ⟨_, _, rfl, rfl, holds⟩

end Agree

end DerivedQuery
