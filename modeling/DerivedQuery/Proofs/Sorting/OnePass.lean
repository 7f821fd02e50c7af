import Mathlib.Data.List.FinRange
import Mathlib.Tactic.Tauto

/-!
# Arranging in one pass

What is selected from a list is said at once: the places of the chosen items, each once, arranged by
one comparison with ties in the order of the list, and cut at a limit. A comparison that never goes
both ways leaves exactly one such list of places. Comparing by several keys, the primary one first,
is such a comparison if comparing by each key is.
-/

set_option autoImplicit false

namespace DerivedQuery

variable {α β κ ι : Type}

/-- The first item comes before the second by the first key in which they differ. -/
def LexBefore (before : κ → α → α → Prop) : List κ → α → α → Prop
  | [], _, _ => False
  | key :: keys, a, b => before key a b ∨ ¬ before key b a ∧ LexBefore before keys a b

namespace LexBefore

theorem asymm {before : κ → α → α → Prop} {keys : List κ} {a b : α}
    (each : ∀ key ∈ keys, before key a b → ¬ before key b a) (ahead : LexBefore before keys a b) :
    ¬ LexBefore before keys b a := by
  induction keys with
  | nil => exact ahead.elim
  | cons key keys ih =>
      have here := each key (by simp)
      have later := ih fun other member => each other (by simp [member])
      simp only [LexBefore] at ahead later ⊢
      tauto

end LexBefore

/-- The places of the chosen items, each once, arranged by a comparison; items of which neither
comes before the other stay in the order of the list. -/
structure OnePass (stored : List α) (chosen : α → Prop) (before : α → α → Prop)
    (places : List (Fin stored.length)) : Prop where
  nodup : places.Nodup
  mem_iff : ∀ i, i ∈ places ↔ chosen (stored.get i)
  arranged : places.Pairwise fun i j =>
    before (stored.get i) (stored.get j) ∨ ¬ before (stored.get j) (stored.get i) ∧ i < j

def firstOf (limit : Option Nat) (items : List α) : List α :=
  match limit with
  | none => items
  | some n => items.take n

theorem map_get_finRange (items : List α) : (List.finRange items.length).map items.get = items := by
  simp [← List.ofFn_eq_map]

variable {stored : List α} {chosen : α → Prop} {before : α → α → Prop}

/-- Arrangements of the same places are equal when the comparison never goes both ways. -/
theorem arranged_unique {places others : List (Fin stored.length)}
    (asymm : ∀ i ∈ places, ∀ j ∈ places, before (stored.get i) (stored.get j) →
      ¬ before (stored.get j) (stored.get i))
    (perm : others.Perm places)
    (arranged : places.Pairwise fun i j =>
      before (stored.get i) (stored.get j) ∨ ¬ before (stored.get j) (stored.get i) ∧ i < j)
    (arrangedOthers : others.Pairwise fun i j =>
      before (stored.get i) (stored.get j) ∨ ¬ before (stored.get j) (stored.get i) ∧ i < j) :
    others = places := by
  refine perm.eq_of_pairwise (fun i j memberI memberJ ahead back => ?_) arrangedOthers arranged
  have forward := asymm i (perm.mem_iff.mp memberI) j memberJ
  rcases ahead with ahead | ⟨notBack, lt⟩
  · rcases back with back | ⟨notAhead, -⟩
    · exact absurd back (forward ahead)
    · exact absurd ahead notAhead
  · rcases back with back | ⟨-, gt⟩
    · exact absurd back notBack
    · exact absurd lt (Nat.lt_asymm gt)

namespace OnePass

theorem unique {places others : List (Fin stored.length)}
    (asymm : ∀ a ∈ stored, ∀ b ∈ stored, chosen a → chosen b → before a b → ¬ before b a)
    (pass : OnePass stored chosen before places) (again : OnePass stored chosen before others) :
    others = places := by
  have perm : others.Perm places := by
    refine (List.perm_ext_iff_of_nodup again.nodup pass.nodup).mpr fun i => ?_
    rw [again.mem_iff, pass.mem_iff]
  refine arranged_unique (fun i memberI j memberJ => ?_) perm pass.arranged again.arranged
  exact asymm _ (List.get_mem stored i) _ (List.get_mem stored j) ((pass.mem_iff i).mp memberI)
    ((pass.mem_iff j).mp memberJ)

theorem perm {test : α → Bool} {places : List (Fin stored.length)}
    (pass : OnePass stored chosen before places) (test_iff : ∀ a, chosen a ↔ test a = true) :
    (places.map stored.get).Perm (stored.filter test) := by
  have found : places.Perm ((List.finRange stored.length).filter fun i => test (stored.get i)) := by
    refine (List.perm_ext_iff_of_nodup pass.nodup ((List.nodup_finRange _).filter _)).mpr fun i => ?_
    simp [pass.mem_iff, test_iff]
  have kept := congrArg (List.filter test) (map_get_finRange stored)
  rw [List.filter_map] at kept
  exact kept ▸ found.map stored.get

/-- Choosing further among the chosen items leaves the others arranged as they are. -/
theorem filter {chosenBoth : α → Prop} {further : α → Bool} {places : List (Fin stored.length)}
    (pass : OnePass stored chosen before places)
    (both_iff : ∀ a, chosenBoth a ↔ chosen a ∧ further a = true) :
    OnePass stored chosenBoth before (places.filter fun i => further (stored.get i)) where
  nodup := pass.nodup.filter _
  mem_iff i := by rw [List.mem_filter, pass.mem_iff, both_iff]
  arranged := pass.arranged.sublist List.filter_sublist

/-- What is selected from images is selected from the items that they are images of. -/
theorem of_map {f : β → α} {items : List β} {places : List (Fin (items.map f).length)}
    {chosenItem : β → Prop} {beforeItem : β → β → Prop}
    (pass : OnePass (items.map f) chosen before places)
    (chosen_iff : ∀ a ∈ items, (chosenItem a ↔ chosen (f a)))
    (before_iff : ∀ a ∈ items, ∀ b ∈ items, (beforeItem a b ↔ before (f a) (f b))) :
    ∃ others : List (Fin items.length), OnePass items chosenItem beforeItem others ∧
      places.map (items.map f).get = (others.map items.get).map f := by
  have length : (items.map f).length = items.length := List.length_map f
  refine ⟨places.map (Fin.cast length), ⟨?_, fun i => ?_, ?_⟩, ?_⟩
  · exact pass.nodup.map (Fin.cast_injective length)
  · rw [chosen_iff _ (List.get_mem items i)]
    have here := pass.mem_iff (Fin.cast length.symm i)
    simp only [List.get_eq_getElem, List.getElem_map, Fin.val_cast] at here
    rw [List.get_eq_getElem, ← here]
    constructor
    · intro member
      obtain ⟨j, inside, rfl⟩ := List.mem_map.mp member
      exact inside
    · intro inside
      exact List.mem_map.mpr ⟨_, inside, rfl⟩
  · refine List.pairwise_map.mpr (pass.arranged.imp fun {i j} both => ?_)
    rw [before_iff _ (List.get_mem items _) _ (List.get_mem items _),
      before_iff _ (List.get_mem items _) _ (List.get_mem items _)]
    simpa only [List.get_eq_getElem, List.getElem_map, Fin.val_cast, Fin.cast_lt_cast] using both
  · simp [List.map_map, Function.comp_def]

end OnePass

end DerivedQuery
