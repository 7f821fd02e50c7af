import DerivedQuery.StableSort.Search
import Mathlib.Data.List.Basic
import Mathlib.Tactic.Common

/-!
# Searches find places

On a list in which the items that satisfy a test stand together at one end, both searches count
them, however they pick the items to ask.
-/

set_option autoImplicit false

namespace DerivedQuery

variable {α : Type}

/-- Items that pass stand before those that do not. -/
def PassFirst (passes : α → Bool) (items : List α) : Prop :=
  items.Pairwise fun a b => passes b = true → passes a = true

namespace PassFirst

variable {passes : α → Bool} {items : List α}

theorem take_drop_countP (first : PassFirst passes items) :
    (∀ a ∈ items.take (items.countP passes), passes a = true) ∧
      ∀ a ∈ items.drop (items.countP passes), passes a = false := by
  induction items with
  | nil => simp
  | cons a rest ih =>
      obtain ⟨taken, dropped⟩ := ih first.tail
      cases passed : passes a with
      | true => simpa [List.countP_cons, passed] using ⟨taken, dropped⟩
      | false =>
          have fails : ∀ b ∈ rest, passes b = false := by
            intro b member
            have back := List.rel_of_pairwise_cons first member
            simpa [passed] using back
          have none : rest.countP passes = 0 :=
            List.countP_eq_zero.mpr fun b member => by simp [fails b member]
          simpa [List.countP_cons, passed, none] using fails

theorem filter_eq_take (first : PassFirst passes items) :
    items.filter passes = items.take (items.countP passes) := by
  obtain ⟨taken, dropped⟩ := first.take_drop_countP
  conv_lhs => rw [← List.take_append_drop (items.countP passes) items]
  rw [List.filter_append, List.filter_eq_self.mpr taken, List.filter_eq_nil_iff.mpr, List.append_nil]
  intro a member
  simp [dropped a member]

theorem reverse_not (first : PassFirst passes items) :
    PassFirst (fun a => !passes a) items.reverse := by
  refine List.pairwise_reverse.mpr (first.imp fun back failed => ?_)
  simp only [Bool.not_eq_true'] at failed ⊢
  exact Bool.eq_false_iff.mpr fun passed => by simp [back passed] at failed

theorem passes_of_lt (first : PassFirst passes items) {i j : Nat} {a b : α} (lt : i < j)
    (atI : items[i]? = some a) (atJ : items[j]? = some b) (passed : passes b = true) :
    passes a = true := by
  obtain ⟨_, rfl⟩ := List.getElem?_eq_some_iff.mp atI
  obtain ⟨_, rfl⟩ := List.getElem?_eq_some_iff.mp atJ
  exact List.pairwise_iff_getElem.mp first _ _ _ _ lt passed

theorem countP_take (first : PassFirst passes items) {i : Nat} {a : α}
    (found : items[i]? = some a) (passed : passes a = true) :
    (items.take (i + 1)).countP passes = i + 1 := by
  have bound := (List.getElem?_eq_some_iff.mp found).1
  have all : ∀ b ∈ items.take (i + 1), passes b = true := by
    intro b member
    obtain ⟨j, below, rfl⟩ := List.mem_take_iff_getElem.mp member
    rcases Nat.lt_or_ge j i with less | least
    · exact first.passes_of_lt less (List.getElem?_eq_getElem _) found passed
    · obtain rfl : i = j := by omega
      rw [List.getElem?_eq_getElem bound] at found
      exact (Option.some.inj found) ▸ passed
  rw [List.countP_eq_length.mpr all, List.length_take]
  omega

theorem countP_drop (first : PassFirst passes items) {i : Nat} {a : α}
    (found : items[i]? = some a) (failed : passes a = false) :
    (items.drop i).countP passes = 0 := by
  refine List.countP_eq_zero.mpr fun b member passed => ?_
  obtain ⟨j, bound, rfl⟩ := List.mem_iff_getElem.mp member
  rw [List.getElem_drop] at passed
  cases j with
  | zero =>
      obtain ⟨_, rfl⟩ := List.getElem?_eq_some_iff.mp found
      simp_all
  | succ j =>
      have back := first.passes_of_lt (j := i + (j + 1)) (by omega) found
        (List.getElem?_eq_getElem _) passed
      simp [back] at failed

theorem take (first : PassFirst passes items) (n : Nat) : PassFirst passes (items.take n) :=
  first.sublist (List.take_sublist n items)

theorem drop (first : PassFirst passes items) (n : Nat) : PassFirst passes (items.drop n) :=
  first.sublist (List.drop_sublist n items)

end PassFirst

/-- Halving counts the items that fail the test, where these stand first. -/
theorem firstPlace_eq_countP {test : α → Bool} {items : List α}
    (first : PassFirst (fun a => !test a) items) :
    firstPlace test items = items.countP fun a => !test a := by
  fun_induction firstPlace test items with
  | case1 => rfl
  | case2 a rest half absent =>
      have beyond := List.getElem?_eq_none_iff.mp absent
      simp only [List.length_cons] at beyond
      omega
  | case3 a rest half middle found tested ih =>
      rw [ih (first.take half)]
      conv_rhs => rw [← List.take_append_drop half (a :: rest)]
      rw [List.countP_append, first.countP_drop found (by simpa using tested), Nat.add_zero]
  | case4 a rest half middle found untested ih =>
      rw [ih (first.drop (half + 1))]
      conv_rhs => rw [← List.take_append_drop (half + 1) (a :: rest)]
      rw [List.countP_append, first.countP_take found (by simpa using untested)]

/-- Growing steps end between an item that passes and one that fails, or behind the end. -/
theorem stride_spec {passes : α → Bool} {items : List α} {last next : Nat} {a : α}
    (ahead : last < next) (found : items[last]? = some a) (passed : passes a = true) :
    ∃ b, items[(stride passes items last next).1]? = some b ∧ passes b = true ∧
      (stride passes items last next).1 < (stride passes items last next).2 ∧
      ((stride passes items last next).2 = items.length ∨
        ∃ c, items[(stride passes items last next).2]? = some c ∧ passes c = false) := by
  fun_induction stride passes items last next generalizing a with
  | case1 last next absent =>
      have bound := (List.getElem?_eq_some_iff.mp found).1
      exact ⟨a, found, passed, bound, .inl rfl⟩
  | case2 last next item here again ih => exact ih (by omega) here again
  | case3 last next item here failed =>
      exact ⟨a, found, passed, ahead, .inr ⟨item, here, by simpa using failed⟩⟩

/-- Halving counts the items that pass as well, from either end. -/
theorem halving_eq_countP (fromEnd : Bool) {passes : α → Bool} {items : List α}
    (first : PassFirst passes items) :
    (if fromEnd then items.length - firstPlace passes items.reverse
      else firstPlace (fun item => !passes item) items) = items.countP passes := by
  cases fromEnd with
  | true =>
      have total := List.length_eq_countP_add_countP passes (l := items)
      simp only [Bool.not_eq_true, Bool.decide_eq_false] at total
      rw [if_pos rfl, firstPlace_eq_countP first.reverse_not, List.countP_reverse]
      omega
  | false =>
      rw [if_neg (by simp), firstPlace_eq_countP (by simpa using first)]
      simp

/-- Galloping counts the items that pass, where these stand first. -/
theorem gallop_eq_countP (fromEnd : Bool) {passes : α → Bool} {items : List α}
    (first : PassFirst passes items) : gallop fromEnd passes items = items.countP passes := by
  cases items with
  | nil => rfl
  | cons a rest =>
      cases passed : passes a with
      | false =>
          have none := first.countP_drop (i := 0) rfl passed
          simp only [gallop, passed, Bool.false_eq_true, if_false]
          simpa using none.symm
      | true =>
          obtain ⟨b, found, again, ahead, ending⟩ :=
            @stride_spec _ passes (a :: rest) 0 1 a (by omega) rfl passed
          simp only [gallop, passed, if_true]
          generalize (stride passes (a :: rest) 0 1).1 = last at *
          generalize (stride passes (a :: rest) 0 1).2 = next at *
          -- The items fall into those up to `last`, those between the two steps, and the rest.
          have front : (((a :: rest).take next).take (last + 1)).countP passes = last + 1 := by
            rw [List.take_take, Nat.min_eq_left ahead, first.countP_take found again]
          have back : ((a :: rest).drop next).countP passes = 0 := by
            rcases ending with rfl | ⟨c, there, failed⟩
            · simp
            · exact first.countP_drop there failed
          rw [halving_eq_countP fromEnd ((first.take next).drop (last + 1))]
          conv_rhs =>
            rw [← List.take_append_drop next (a :: rest), List.countP_append, back, Nat.add_zero,
              ← List.take_append_drop (last + 1) ((a :: rest).take next), List.countP_append,
              front]

end DerivedQuery
