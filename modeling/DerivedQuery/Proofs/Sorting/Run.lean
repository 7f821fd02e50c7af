import DerivedQuery.Proofs.Sorting.Merge
import DerivedQuery.StableSort.Run

/-!
# Cutting into rising runs

Every run that is cut off rises, and the runs one after the other keep the ties of the list: only a
strictly falling part, in which no two keys are equal, is turned round.
-/

set_option autoImplicit false

namespace DerivedQuery

variable {α κ : Type} [LinearOrder κ]
variable {less : α → α → Bool} {within : α → Prop} {key : α → κ}

/-- An item goes behind those it is not less than. -/
theorem insertSorted_stablySorted (order : OrdersByKey less within key) {sorted : List α}
    {item : α} (run : RisingRun within key sorted) (inside : within item) :
    StablySorted key (sorted ++ [item]) (insertSorted less sorted item) := by
  have first := run.passFirst_le order inside
  obtain ⟨low, high⟩ := first.take_drop_countP
  simp only [insertSorted, firstPlace_eq_countP first]
  generalize (sorted.countP fun a => !less item a) = n at low high
  have lowKeys : ∀ a ∈ sorted.take n, key a ≤ key item := fun a member =>
    (order.not_less_iff inside (run.within a (List.mem_of_mem_take member))).mp
      (by simpa using low a member)
  have highKeys : ∀ a ∈ sorted.drop n, key item < key a := fun a member =>
    (order.less_iff inside (run.within a (List.mem_of_mem_drop member))).mp
      (by simpa using high a member)
  have front : StablySorted key (sorted.take n) (sorted.take n) :=
    .of_rising (run.rising.sublist (List.take_sublist n sorted))
  have back : StablySorted key (sorted.drop n) (sorted.drop n) :=
    .of_rising (run.rising.sublist (List.drop_sublist n sorted))
  have moved : KeepsTies key (sorted.take n ++ (sorted.drop n ++ [item]))
      (sorted.take n ++ item :: sorted.drop n) :=
    (KeepsTies.refl key _).append (KeepsTies.pass fun a member => (highKeys a member).ne')
  rw [← List.append_assoc, List.take_append_drop] at moved
  refine StablySorted.trans_ties moved
    (front.append (back.cons fun a member => (highKeys a member).le) ?_)
  intro a inFront b inBack
  rcases List.mem_cons.mp inBack with rfl | inBack
  · exact lowKeys a inFront
  · exact (lowKeys a inFront).trans (highKeys b inBack).le

theorem foldl_insertSorted_stablySorted (order : OrdersByKey less within key)
    {run items : List α} (rising : RisingRun within key run) (inside : ∀ a ∈ items, within a) :
    StablySorted key (run ++ items) (items.foldl (insertSorted less) run) := by
  induction items generalizing run with
  | nil => simpa using StablySorted.of_rising rising.rising
  | cons item rest ih =>
      have step := insertSorted_stablySorted order rising (inside item (by simp))
      have all : ∀ a ∈ run ++ [item], within a := by
        intro a member
        rcases List.mem_append.mp member with inRun | single
        · exact rising.within a inRun
        · exact inside a (by simp [List.mem_singleton.mp single])
      have longer := RisingRun.of_stablySorted all step
      have sorted := ih longer fun a member => inside a (by simp [member])
      have moved := step.ties.append (.refl key rest)
      rw [List.append_assoc, List.singleton_append] at moved
      exact StablySorted.trans_ties moved sorted

theorem risingRun_append (less : α → α → Bool) (last : α) (items : List α) :
    (risingRun less last items).1 ++ (risingRun less last items).2 = items := by
  induction items generalizing last with
  | nil => rfl
  | cons item rest ih =>
      simp only [risingRun]
      split
      · rfl
      · exact congrArg (item :: ·) (ih item)

theorem fallingRun_append (less : α → α → Bool) (last : α) (items : List α) :
    (fallingRun less last items).1 ++ (fallingRun less last items).2 = items := by
  induction items generalizing last with
  | nil => rfl
  | cons item rest ih =>
      simp only [fallingRun]
      split
      · exact congrArg (item :: ·) (ih item)
      · rfl

theorem risingRun_rises (order : OrdersByKey less within key) {last : α} {items : List α}
    (inside : ∀ a ∈ last :: items, within a) :
    (last :: (risingRun less last items).1).Pairwise fun a b => key a ≤ key b := by
  induction items generalizing last with
  | nil => simp [risingRun]
  | cons item rest ih =>
      simp only [risingRun]
      split
      · simp
      · next keeps =>
          have rises := @ih item fun a member => inside a (by simp_all)
          have le : key last ≤ key item :=
            (order.not_less_iff (inside item (by simp)) (inside last (by simp))).mp
              (Bool.eq_false_iff.mpr keeps)
          refine List.pairwise_cons.mpr ⟨fun a member => ?_, rises⟩
          rcases List.mem_cons.mp member with rfl | later
          · exact le
          · exact le.trans (List.rel_of_pairwise_cons rises later)

theorem fallingRun_falls (order : OrdersByKey less within key) {last : α} {items : List α}
    (inside : ∀ a ∈ last :: items, within a) :
    (last :: (fallingRun less last items).1).Pairwise fun a b => key b < key a := by
  induction items generalizing last with
  | nil => simp [fallingRun]
  | cons item rest ih =>
      simp only [fallingRun]
      split
      · next goes =>
          have falls := @ih item fun a member => inside a (by simp_all)
          have lt : key item < key last :=
            (order.less_iff (inside item (by simp)) (inside last (by simp))).mp goes
          refine List.pairwise_cons.mpr ⟨fun a member => ?_, falls⟩
          rcases List.mem_cons.mp member with rfl | later
          · exact lt
          · exact (List.rel_of_pairwise_cons falls later).trans lt
      · simp

/-- A run that is cut off a list, and what is left of the list. -/
structure CutOff (within : α → Prop) (key : α → κ) (items : List α) (cut : List α × List α) :
    Prop where
  run : RisingRun within key cut.1
  ties : KeepsTies key items (cut.1 ++ cut.2)

theorem leadingRun_cutOff (order : OrdersByKey less within key) {items : List α}
    (inside : ∀ a ∈ items, within a) : CutOff within key items (leadingRun less items) := by
  match items, inside with
  | [], _ =>
      exact ⟨⟨by simp [leadingRun], by simp [leadingRun]⟩, by simp [leadingRun, KeepsTies.refl]⟩
  | [item], inside =>
      exact ⟨⟨inside, by simp [leadingRun]⟩, by simp [leadingRun, KeepsTies.refl]⟩
  | first :: second :: rest, inside =>
      simp only [leadingRun]
      split
      · have falls := fallingRun_falls order inside
        have whole := fallingRun_append less first (second :: rest)
        generalize fallingRun less first (second :: rest) = run at falls whole ⊢
        rw [← whole] at inside ⊢
        have turned := KeepsTies.reverse_of_distinct (falls.imp fun lt => lt.ne')
        refine ⟨⟨fun a member => inside a ?_, ?_⟩, turned.append (.refl key run.2)⟩
        · rw [← List.cons_append]
          exact List.mem_append_left _ (List.mem_reverse.mp member)
        · exact List.pairwise_reverse.mpr (falls.imp fun lt => lt.le)
      · have rises := risingRun_rises order inside
        have whole := risingRun_append less first (second :: rest)
        generalize risingRun less first (second :: rest) = run at rises whole ⊢
        rw [← whole] at inside ⊢
        refine ⟨⟨fun a member => inside a ?_, rises⟩, .refl key _⟩
        rw [← List.cons_append]
        exact List.mem_append_left _ member

theorem leadingRun_ne_nil (less : α → α → Bool) (first : α) (rest : List α) :
    (leadingRun less (first :: rest)).1 ≠ [] := by
  cases rest with
  | nil => simp [leadingRun]
  | cons second rest =>
      simp only [leadingRun]
      split <;> simp

theorem extendedRun_cutOff (order : OrdersByKey less within key) (least : Nat) {items : List α}
    (inside : ∀ a ∈ items, within a) :
    CutOff within key items (extendedRun less least items) := by
  obtain ⟨run, ties⟩ := leadingRun_cutOff order inside
  simp only [extendedRun]
  generalize leadingRun less items = cut at run ties ⊢
  have all : ∀ a ∈ cut.1 ++ cut.2, within a := fun a member => inside a (ties.mem_iff.mp member)
  have taken : ∀ a ∈ cut.2.take (least - cut.1.length), within a := fun a member =>
    all a (List.mem_append_right _ (List.mem_of_mem_take member))
  have sorted := foldl_insertSorted_stablySorted order run taken
  have moved := sorted.ties.append (.refl key (cut.2.drop (least - cut.1.length)))
  rw [List.append_assoc, List.take_append_drop] at moved
  refine ⟨.of_stablySorted (fun a member => ?_) sorted, ties.trans moved⟩
  rcases List.mem_append.mp member with inRun | inRest
  · exact run.within a inRun
  · exact taken a inRest

theorem extendedRun_ne_nil (order : OrdersByKey less within key) (least : Nat) {first : α}
    {rest : List α} (inside : ∀ a ∈ first :: rest, within a) :
    (extendedRun less least (first :: rest)).1 ≠ [] := by
  obtain ⟨run, ties⟩ := leadingRun_cutOff order inside
  have nonempty := leadingRun_ne_nil less first rest
  simp only [extendedRun]
  generalize leadingRun less (first :: rest) = cut at run ties nonempty ⊢
  have taken : ∀ a ∈ cut.2.take (least - cut.1.length), within a := fun a member =>
    inside a (ties.mem_iff.mp (List.mem_append_right _ (List.mem_of_mem_take member)))
  have sorted := foldl_insertSorted_stablySorted order run taken
  intro empty
  have none := sorted.ties.perm.symm
  rw [empty] at none
  exact nonempty (List.append_eq_nil_iff.mp (List.perm_nil.mp none)).1

/-- The runs of a list rise, and one after the other they keep its ties. -/
theorem runsWithin_spec (order : OrdersByKey less within key) (least : Nat) {fuel : Nat}
    {items : List α} (enough : items.length ≤ fuel) (inside : ∀ a ∈ items, within a) :
    (∀ run ∈ runsWithin less least fuel items, RisingRun within key run) ∧
      KeepsTies key items (runsWithin less least fuel items).flatten := by
  induction fuel generalizing items with
  | zero =>
      obtain rfl := List.eq_nil_of_length_eq_zero (Nat.le_zero.mp enough)
      exact ⟨by simp [runsWithin], .refl key []⟩
  | succ fuel ih =>
      rcases items with _ | ⟨first, rest⟩
      · exact ⟨by simp [runsWithin], .refl key []⟩
      obtain ⟨run, ties⟩ := extendedRun_cutOff order least inside
      have nonempty := List.length_pos_of_ne_nil (extendedRun_ne_nil order least inside)
      simp only [runsWithin]
      generalize extendedRun less least (first :: rest) = cut at run ties nonempty ⊢
      have length := ties.perm.length_eq
      rw [List.length_append] at length
      obtain ⟨runs, tiesRest⟩ := @ih cut.2 (by omega) fun a member =>
        inside a (ties.mem_iff.mp (List.mem_append_right _ member))
      refine ⟨fun other member => ?_, ties.trans ((KeepsTies.refl key cut.1).append tiesRest)⟩
      rcases List.mem_cons.mp member with rfl | later
      · exact run
      · exact runs other later

end DerivedQuery
