import Mathlib.Data.List.Forall2

/-!
# Passes that may fail

A sequence of steps succeeds when every step does, and a pass over a list succeeds when it does at
every element.
-/

set_option autoImplicit false

namespace DerivedQuery

variable {ε α β : Type}

theorem bind_eq_ok {action : Except ε α} {next : α → Except ε β} {result : β} :
    action >>= next = .ok result ↔ ∃ item, action = .ok item ∧ next item = .ok result := by
  cases action with
  | error fault => exact ⟨(nomatch ·), fun ⟨_, contra, _⟩ => nomatch contra⟩
  | ok item => exact ⟨fun accepted => ⟨item, rfl, accepted⟩, fun ⟨_, rfl, accepted⟩ => accepted⟩

theorem map_eq_ok {action : Except ε α} {f : α → β} {result : β} :
    action.map f = .ok result ↔ ∃ item, action = .ok item ∧ f item = result := by
  cases action with
  | error fault => exact ⟨(nomatch ·), fun ⟨_, contra, _⟩ => nomatch contra⟩
  | ok item => simp [Except.map]

theorem mapError_eq_ok {φ : Type} {action : Except ε α} {f : ε → φ} {result : α} :
    action.mapError f = .ok result ↔ action = .ok result := by
  cases action <;> simp [Except.mapError]

theorem bind_eq_error {action : Except ε α} {next : α → Except ε β} {fault : ε} :
    action >>= next = .error fault ↔
      action = .error fault ∨ ∃ item, action = .ok item ∧ next item = .error fault := by
  cases action with
  | error other => simp [bind, Except.bind]
  | ok item => simp [bind, Except.bind]

theorem map_eq_error {action : Except ε α} {f : α → β} {fault : ε} :
    action.map f = .error fault ↔ action = .error fault := by
  cases action <;> simp [Except.map]

theorem mapError_eq_error {φ : Type} {action : Except ε α} {f : ε → φ} {fault : φ} :
    action.mapError f = .error fault ↔ ∃ other, action = .error other ∧ f other = fault := by
  cases action <;> simp [Except.mapError]

theorem mapError_bind {φ : Type} {action : Except ε α} {next : α → Except ε β} {f : ε → φ} :
    (action >>= next).mapError f = action.mapError f >>= fun item => (next item).mapError f := by
  cases action <;> rfl

theorem exists_of_forall₂ {related : α → β → Prop} {items : List α} {results : List β}
    (all : List.Forall₂ related items results) {result : β} (member : result ∈ results) :
    ∃ item ∈ items, related item result := by
  induction all with
  | nil => exact absurd member (by simp)
  | @cons item first items results here rest ih =>
      rcases List.mem_cons.mp member with rfl | member
      · exact ⟨item, by simp, here⟩
      · obtain ⟨other, inside, holds⟩ := ih member
        exact ⟨other, by simp [inside], holds⟩

theorem forall₂_congr_of_mem {related again : α → β → Prop} {items : List α} {results : List β}
    (agree : ∀ item ∈ items, ∀ result, related item result ↔ again item result) :
    List.Forall₂ related items results ↔ List.Forall₂ again items results := by
  induction items generalizing results with
  | nil => simp
  | cons item items ih =>
      simp only [List.forall₂_cons_left_iff, agree item (by simp),
        ih fun other member => agree other (by simp [member])]

theorem exists_forall₂ {related : α → β → Prop} {items : List α} :
    (∃ results, List.Forall₂ related items results) ↔
      ∀ item ∈ items, ∃ result, related item result := by
  induction items with
  | nil => exact ⟨fun _ => by simp, fun _ => ⟨[], .nil⟩⟩
  | cons item items ih =>
      rw [List.forall_mem_cons, ← ih]
      constructor
      · rintro ⟨_, all⟩
        obtain ⟨first, others, here, rest, rfl⟩ := List.forall₂_cons_left_iff.mp all
        exact ⟨⟨first, here⟩, others, rest⟩
      · rintro ⟨⟨first, here⟩, others, rest⟩
        exact ⟨first :: others, .cons here rest⟩

/-- A pass gives one result for each element. -/
theorem mapM_eq_ok {f : α → Except ε β} {items : List α} {results : List β} :
    items.mapM f = .ok results ↔
      List.Forall₂ (fun item result => f item = .ok result) items results := by
  induction items generalizing results with
  | nil =>
      rw [List.mapM_nil, List.forall₂_nil_left_iff]
      exact ⟨fun accepted => (Except.ok.inj accepted).symm, fun empty => empty ▸ rfl⟩
  | cons item items ih =>
      rw [List.mapM_cons, bind_eq_ok, List.forall₂_cons_left_iff]
      constructor
      · rintro ⟨first, accepted, rest⟩
        obtain ⟨others, acceptedRest, same⟩ := bind_eq_ok.mp rest
        exact ⟨first, others, accepted, ih.mp acceptedRest, (Except.ok.inj same).symm⟩
      · rintro ⟨first, others, accepted, rest, rfl⟩
        exact ⟨first, accepted, bind_eq_ok.mpr ⟨others, ih.mpr rest, rfl⟩⟩

theorem mapError_mapM {φ : Type} {g : α → Except ε β} {f : ε → φ} {items : List α} :
    (items.mapM g).mapError f = items.mapM fun item => (g item).mapError f := by
  induction items with
  | nil => rfl
  | cons item items ih =>
      simp only [List.mapM_cons, mapError_bind, ih]
      rfl

/-- A pass fails at the first element that does. -/
theorem mapM_eq_error {f : α → Except ε β} {items : List α} {fault : ε} :
    items.mapM f = .error fault ↔
      ∃ front item back, items = front ++ item :: back ∧
        (∀ other ∈ front, ∃ result, f other = .ok result) ∧ f item = .error fault := by
  induction items with
  | nil =>
      rw [List.mapM_nil]
      constructor
      · intro failed
        exact nomatch failed
      · rintro ⟨front, item, back, same, -⟩
        simp at same
  | cons first items ih =>
      rw [List.mapM_cons, bind_eq_error]
      constructor
      · rintro (failed | ⟨result, accepted, failed⟩)
        · exact ⟨[], first, items, rfl, by simp, failed⟩
        · rcases bind_eq_error.mp failed with failed | ⟨results, -, contra⟩
          · obtain ⟨front, item, back, rfl, before, fails⟩ := ih.mp failed
            refine ⟨first :: front, item, back, rfl, ?_, fails⟩
            exact List.forall_mem_cons.mpr ⟨⟨result, accepted⟩, before⟩
          · exact nomatch contra
      · rintro ⟨front, item, back, same, before, fails⟩
        cases front with
        | nil =>
            obtain ⟨rfl, rfl⟩ := List.cons_eq_cons.mp same
            exact .inl fails
        | cons head front =>
            obtain ⟨rfl, rfl⟩ := List.cons_eq_cons.mp same
            obtain ⟨⟨result, accepted⟩, later⟩ := List.forall_mem_cons.mp before
            refine .inr ⟨result, accepted, bind_eq_error.mpr (.inl ?_)⟩
            exact ih.mpr ⟨front, item, back, rfl, later, fails⟩

end DerivedQuery
