import Mathlib.Order.OrderDual
import Mathlib.Order.Basic
import Mathlib.Data.List.Basic
import Mathlib.Order.Lattice

/-!
# Stable arrangements

Items are sorted by keys from a linear order. What a stable sort may do is said through the items of
one key: an arrangement keeps ties when, for every key, it has the same items with this key in the
same order. A stable arrangement that rises is determined by the items alone, and it sorts a list
that was arranged by another relation lexicographically, by the key first and by that relation then.
-/

set_option autoImplicit false

namespace DerivedQuery

variable {α β κ : Type} [LinearOrder κ]

/-- Two lists have the same items in the same order, as far as items with equal keys go. -/
def KeepsTies (key : α → κ) (items out : List α) : Prop :=
  ∀ k, out.filter (fun a => key a = k) = items.filter (fun a => key a = k)

namespace KeepsTies

variable {key : α → κ} {items out : List α}

theorem refl (key : α → κ) (items : List α) : KeepsTies key items items := fun _ => rfl

theorem trans {middle : List α} (first : KeepsTies key items middle)
    (second : KeepsTies key middle out) : KeepsTies key items out :=
  fun k => (second k).trans (first k)

theorem append {moreItems moreOut : List α} (front : KeepsTies key items out)
    (back : KeepsTies key moreItems moreOut) :
    KeepsTies key (items ++ moreItems) (out ++ moreOut) := by
  intro k
  rw [List.filter_append, List.filter_append, front k, back k]

theorem reverse (ties : KeepsTies key items out) : KeepsTies key items.reverse out.reverse := by
  intro k
  rw [List.filter_reverse, List.filter_reverse, ties k]

theorem perm (ties : KeepsTies key items out) : out.Perm items := by
  classical
  refine List.perm_iff_count.mpr fun a => ?_
  have counted (list : List α) :
      (list.filter fun b => key b = key a).count a = list.count a :=
    List.count_filter (by simp)
  rw [← counted out, ties (key a), counted items]

theorem mem_iff (ties : KeepsTies key items out) {a : α} : a ∈ out ↔ a ∈ items :=
  ties.perm.mem_iff

theorem swap {left right : List α} (apart : ∀ a ∈ left, ∀ b ∈ right, key a ≠ key b) :
    KeepsTies key (left ++ right) (right ++ left) := by
  intro k
  rw [List.filter_append, List.filter_append]
  by_cases present : ∃ a ∈ left, key a = k
  · obtain ⟨a, member, rfl⟩ := present
    have absent : right.filter (fun b => key b = key a) = [] := by
      refine List.filter_eq_nil_iff.mpr fun b inRight => ?_
      simpa using (apart a member b inRight).symm
    simp [absent]
  · have absent : left.filter (fun a => key a = k) = [] := by
      refine List.filter_eq_nil_iff.mpr fun a member same => present ⟨a, member, ?_⟩
      simpa using same
    simp [absent]

theorem pass {a : α} {block : List α} (apart : ∀ b ∈ block, key b ≠ key a) :
    KeepsTies key (block ++ [a]) (a :: block) :=
  swap fun b member c single => by
    rw [List.mem_singleton.mp single]
    exact apart b member

theorem reverse_of_distinct (distinct : items.Pairwise fun a b => key a ≠ key b) :
    KeepsTies key items items.reverse := by
  induction items with
  | nil => exact refl key []
  | cons a rest ih =>
      have apart : ∀ b ∈ [a], ∀ c ∈ rest.reverse, key b ≠ key c := by
        simpa using fun c member => List.rel_of_pairwise_cons distinct member
      rw [List.reverse_cons]
      exact ((refl key [a]).append (ih distinct.tail)).trans (swap apart)

/-- Keeping ties does not depend on the direction of the order. -/
theorem dual (ties : KeepsTies key items out) : KeepsTies (OrderDual.toDual ∘ key) items out :=
  fun k => ties (OrderDual.ofDual k)

end KeepsTies

/-- `out` holds the items in rising order of their keys, those with equal keys in their old order.
-/
structure StablySorted (key : α → κ) (items out : List α) : Prop where
  rising : out.Pairwise fun a b => key a ≤ key b
  ties : KeepsTies key items out

namespace StablySorted

variable {key : α → κ} {items out : List α}

theorem of_rising (rising : items.Pairwise fun a b => key a ≤ key b) :
    StablySorted key items items := ⟨rising, .refl key items⟩

theorem trans_ties {earlier : List α} (ties : KeepsTies key earlier items)
    (sorted : StablySorted key items out) : StablySorted key earlier out :=
  ⟨sorted.rising, ties.trans sorted.ties⟩

/-- Sorting in the opposite direction from the other end. -/
theorem reverse_dual (sorted : StablySorted (OrderDual.toDual ∘ key) items out) :
    StablySorted key items.reverse out.reverse where
  rising := List.pairwise_reverse.mpr sorted.rising
  ties := sorted.ties.dual.reverse

theorem append {moreItems moreOut : List α} (front : StablySorted key items out)
    (back : StablySorted key moreItems moreOut)
    (below : ∀ a ∈ items, ∀ b ∈ moreItems, key a ≤ key b) :
    StablySorted key (items ++ moreItems) (out ++ moreOut) where
  rising := List.pairwise_append.mpr ⟨front.rising, back.rising, fun a left b right =>
    below a (front.ties.mem_iff.mp left) b (back.ties.mem_iff.mp right)⟩
  ties := front.ties.append back.ties

theorem cons {a : α} (least : ∀ b ∈ items, key a ≤ key b) (sorted : StablySorted key items out) :
    StablySorted key (a :: items) (a :: out) := by
  have single : StablySorted key [a] [a] := .of_rising (by simp)
  exact single.append sorted (by simpa using least)

/-- A least item goes first over a front of items that lie above it. -/
theorem cons_of_above {a : α} {front back : List α} (above : ∀ b ∈ front, key a < key b)
    (least : ∀ b ∈ back, key a ≤ key b) (sorted : StablySorted key (front ++ back) out) :
    StablySorted key (front ++ a :: back) (a :: out) := by
  have jump : KeepsTies key (front ++ [a] ++ back) (a :: front ++ back) :=
    (KeepsTies.pass fun b member => (above b member).ne').append (.refl key back)
  rw [List.append_assoc] at jump
  refine trans_ties jump (cons (fun b member => ?_) sorted)
  rcases List.mem_append.mp member with inFront | inBack
  · exact (above b inFront).le
  · exact least b inBack

theorem concat {a : α} (greatest : ∀ b ∈ items, key b ≤ key a)
    (sorted : StablySorted key items out) : StablySorted key (items ++ [a]) (out ++ [a]) := by
  have single : StablySorted key [a] [a] := .of_rising (by simp)
  exact sorted.append single (by simpa using greatest)

/-- There is only one stable arrangement in rising order. -/
theorem unique {other : List α} (sorted : StablySorted key items out)
    (again : StablySorted key items other) : out = other := by
  have ties : KeepsTies key other out := fun k => (sorted.ties k).trans (again.ties k).symm
  have rising := sorted.rising
  have risingAgain := again.rising
  clear sorted again
  induction out generalizing other with
  | nil => exact (List.perm_nil.mp ties.perm.symm).symm
  | cons a rest ih =>
      cases other with
      | nil => exact absurd ties.perm (by simp)
      | cons b others =>
          have least : key a = key b := by
            have lower : ∀ c ∈ a :: rest, key a ≤ key c := by
              simpa using fun c member => List.rel_of_pairwise_cons rising member
            have lowerAgain : ∀ c ∈ b :: others, key b ≤ key c := by
              simpa using fun c member => List.rel_of_pairwise_cons risingAgain member
            exact le_antisymm (lower b (ties.mem_iff.mpr (by simp)))
              (lowerAgain a (ties.mem_iff.mp (by simp)))
          obtain ⟨rfl, -⟩ : a = b ∧ _ := List.cons.inj (by simpa [least] using ties (key a))
          refine congrArg (a :: ·) (ih ?_ rising.tail risingAgain.tail)
          intro k
          have same := ties k
          by_cases here : key a = k <;> simpa [here] using same

/-- A stable sort of items that are arranged by `related` sorts them by the key first and by
`related` where the keys are equal. -/
theorem pairwise_lex {related : α → α → Prop} (sorted : StablySorted key items out)
    (arranged : items.Pairwise related) :
    out.Pairwise fun a b => key a < key b ∨ key a = key b ∧ related a b := by
  rw [List.pairwise_iff_forall_sublist]
  intro a b pair
  have le : key a ≤ key b := List.pairwise_iff_forall_sublist.mp sorted.rising pair
  refine le.lt_or_eq.imp id fun same => ⟨same, ?_⟩
  have within : [a, b].Sublist (items.filter fun c => key c = key a) := by
    rw [← sorted.ties (key a)]
    simpa [same] using pair.filter fun c => key c = key a
  exact List.pairwise_iff_forall_sublist.mp arranged (within.trans List.filter_sublist)

theorem map {f : β → α} {sources sortedSources : List β}
    (sorted : StablySorted (key ∘ f) sources sortedSources) :
    StablySorted key (sources.map f) (sortedSources.map f) where
  rising := List.pairwise_map.mpr sorted.rising
  ties := by
    intro k
    rw [List.filter_map, List.filter_map]
    exact congrArg (List.map f) (sorted.ties k)

end StablySorted

end DerivedQuery
