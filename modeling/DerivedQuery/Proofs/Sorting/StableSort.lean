import DerivedQuery.Proofs.Sorting.Run
import DerivedQuery.StableSort

/-!
# The sort is stable

Where the relation is the strict order of keys on all items, sorting yields the one stable
arrangement in rising order, however the list is cut into runs and in whatever order these are
merged. In the opposite direction items with equal keys keep their order as well.
-/

set_option autoImplicit false

namespace DerivedQuery

variable {α β κ : Type} [LinearOrder κ]
variable {less : α → α → Bool} {within : α → Prop} {key : α → κ}

namespace WaitingRuns

/-- The items of waiting runs in the order of the list; the last run waits first. -/
def laidOut (runs : List (List α)) : List α := runs.reverse.flatten

@[simp] theorem laidOut_nil : laidOut ([] : List (List α)) = [] := rfl

@[simp] theorem laidOut_cons (run : List α) (runs : List (List α)) :
    laidOut (run :: runs) = laidOut runs ++ run := by simp [laidOut]

/-- Merging two neighbouring runs keeps the ties of all that wait. -/
theorem laidOut_merge (order : OrdersByKey less within key) (patience : Nat)
    {last previous : List α} (runLast : RisingRun within key last)
    (runPrevious : RisingRun within key previous) (runs : List (List α)) :
    RisingRun within key (mergeRuns less patience previous last).1 ∧
      KeepsTies key (laidOut (last :: previous :: runs))
        (laidOut ((mergeRuns less patience previous last).1 :: runs)) := by
  have merged := mergeRuns_stablySorted order patience runPrevious runLast
  have inside : ∀ a ∈ previous ++ last, within a := by
    intro a member
    rcases List.mem_append.mp member with inPrevious | inLast
    · exact runPrevious.within a inPrevious
    · exact runLast.within a inLast
  refine ⟨.of_stablySorted inside merged, ?_⟩
  simpa using (KeepsTies.refl key (laidOut runs)).append merged.ties

/-- Settling merges rising runs into rising runs and keeps the ties. -/
theorem settle_spec (order : OrdersByKey less within key) (power : Nat) {last : List α}
    (patience : Nat) {runs : List (WaitingRun α)} (runLast : RisingRun within key last)
    (rising : ∀ run ∈ runs, RisingRun within key run.items) :
    RisingRun within key (settle less power last patience runs).1.1 ∧
      (∀ run ∈ (settle less power last patience runs).2, RisingRun within key run.items) ∧
      KeepsTies key (laidOut (last :: runs.map WaitingRun.items))
        (laidOut ((settle less power last patience runs).1.1 ::
          (settle less power last patience runs).2.map WaitingRun.items)) := by
  induction runs generalizing last patience with
  | nil => exact ⟨runLast, rising, .refl key _⟩
  | cons run rest ih =>
      have rest_rising : ∀ other ∈ rest, RisingRun within key other.items := fun other member =>
        rising other (by simp [member])
      simp only [settle]
      split
      · obtain ⟨runMerged, ties⟩ := laidOut_merge order patience runLast (rising run (by simp))
          (rest.map WaitingRun.items)
        obtain ⟨runAll, left, tiesAll⟩ :=
          ih (mergeRuns less patience run.items last).2 runMerged rest_rising
        exact ⟨runAll, left, ties.trans tiesAll⟩
      · exact ⟨runLast, rising, .refl key _⟩

theorem push_spec (order : OrdersByKey less within key) (total : Nat) {waiting : WaitingRuns α}
    {next : List α} (rising : ∀ run ∈ waiting.runs, RisingRun within key run.items)
    (runNext : RisingRun within key next) :
    (∀ run ∈ (push less total waiting next).runs, RisingRun within key run.items) ∧
      KeepsTies key (laidOut (waiting.runs.map WaitingRun.items) ++ next)
        (laidOut ((push less total waiting next).runs.map WaitingRun.items)) := by
  obtain ⟨runs, patience⟩ := waiting
  rcases runs with _ | ⟨last, rest⟩
  · exact ⟨by simpa [push] using runNext, by simpa [push] using .refl key next⟩
  · simp only [push]
    generalize meetingPower total _ last.items.length next.length = power
    have risingRest : ∀ run ∈ rest, RisingRun within key run.items := fun run member =>
      rising run (by simp [member])
    obtain ⟨runMerged, left, ties⟩ :=
      settle_spec order power patience (rising last (by simp)) risingRest
    refine ⟨fun run member => ?_, ?_⟩
    · simp only [List.mem_cons] at member
      rcases member with rfl | rfl | member
      · exact runNext
      · exact runMerged
      · exact left run member
    · simpa using ties.append (.refl key next)

theorem foldl_push_spec (order : OrdersByKey less within key) (total : Nat)
    {cut : List (List α)} {waiting : WaitingRuns α}
    (rising : ∀ run ∈ waiting.runs, RisingRun within key run.items)
    (risingCut : ∀ run ∈ cut, RisingRun within key run) :
    (∀ run ∈ (cut.foldl (push less total) waiting).runs, RisingRun within key run.items) ∧
      KeepsTies key (laidOut (waiting.runs.map WaitingRun.items) ++ cut.flatten)
        (laidOut ((cut.foldl (push less total) waiting).runs.map WaitingRun.items)) := by
  induction cut generalizing waiting with
  | nil => exact ⟨rising, by simpa using .refl key _⟩
  | cons next rest ih =>
      obtain ⟨pushed, ties⟩ := push_spec order total rising (risingCut next (by simp))
      obtain ⟨all, tiesRest⟩ := ih pushed fun run member => risingCut run (by simp [member])
      refine ⟨all, ?_⟩
      have first := ties.append (.refl key rest.flatten)
      rw [List.append_assoc] at first
      exact first.trans tiesRest

/-- Merging all runs yields one stable arrangement. -/
theorem mergeAll_stablySorted (order : OrdersByKey less within key) (patience : Nat)
    {runs : List (List α)} (rising : ∀ run ∈ runs, RisingRun within key run) :
    StablySorted key (laidOut runs) (mergeAll less patience runs) := by
  fun_induction mergeAll less patience runs with
  | case1 => exact .of_rising (by simp)
  | case2 patience run => simpa using StablySorted.of_rising (rising run (by simp)).rising
  | case3 patience last previous =>
      simpa using mergeRuns_stablySorted order patience (rising previous (by simp))
        (rising last (by simp))
  | case4 patience last previous earlier rest longer merged ih =>
      obtain ⟨runMerged, ties⟩ := laidOut_merge order patience (rising previous (by simp))
        (rising earlier (by simp)) rest
      refine StablySorted.trans_ties ?_ (ih fun run member => ?_)
      · simpa using ties.append (.refl key last)
      · simp only [List.mem_cons] at member
        rcases member with rfl | rfl | member
        · exact rising _ (by simp)
        · exact runMerged
        · exact rising run (by simp [member])
  | case5 patience last previous earlier rest longer merged ih =>
      obtain ⟨runMerged, ties⟩ := laidOut_merge order patience (rising last (by simp))
        (rising previous (by simp)) (earlier :: rest)
      refine StablySorted.trans_ties ties (ih fun run member => ?_)
      simp only [List.mem_cons] at member
      rcases member with rfl | rfl | member
      · exact runMerged
      · exact rising _ (by simp)
      · exact rising run (by simp [member])

end WaitingRuns

/-- Sorting is stable and rises. -/
theorem stableSort_stablySorted (order : OrdersByKey less within key) {items : List α}
    (inside : ∀ a ∈ items, within a) : StablySorted key items (stableSort less items) := by
  obtain ⟨risingCut, ties⟩ :=
    runsWithin_spec order (leastRun items.length false) (Nat.le_refl _) inside
  have none : ∀ run ∈ (⟨[], leastGallop⟩ : WaitingRuns α).runs, RisingRun within key run.items := by
    simp
  obtain ⟨rising, tiesPushed⟩ := WaitingRuns.foldl_push_spec order items.length none risingCut
  simp only [stableSort, runs]
  refine StablySorted.trans_ties (ties.trans tiesPushed)
    (WaitingRuns.mergeAll_stablySorted order _ fun run member => ?_)
  obtain ⟨waiting, isWaiting, rfl⟩ := List.mem_map.mp member
  exact rising waiting isWaiting

/-- Sorting in the opposite direction falls, and is stable as well. -/
theorem stableSortDescending_stablySorted (order : OrdersByKey less within key) {items : List α}
    (inside : ∀ a ∈ items, within a) :
    StablySorted (OrderDual.toDual ∘ key) items (stableSortDescending less items) := by
  have sorted := stableSort_stablySorted order fun a member =>
    inside a (List.mem_reverse.mp member)
  have turned : StablySorted (OrderDual.toDual ∘ key) items.reverse.reverse
      (stableSort less items.reverse).reverse := StablySorted.reverse_dual sorted
  rwa [List.reverse_reverse] at turned

/-- What is arranged by `related` is sorted by the relation first and by `related` where it decides
nothing. -/
theorem stableSort_pairwise (order : OrdersByKey less within key) {items : List α}
    (inside : ∀ a ∈ items, within a) {related : α → α → Prop} (arranged : items.Pairwise related) :
    (stableSort less items).Pairwise fun a b => less a b = true ∨ less b a = false ∧ related a b := by
  have sorted := stableSort_stablySorted order inside
  refine (sorted.pairwise_lex arranged).imp_of_mem fun {a b} memberA memberB lex => ?_
  have insideA := inside a (sorted.ties.mem_iff.mp memberA)
  have insideB := inside b (sorted.ties.mem_iff.mp memberB)
  rcases lex with lt | ⟨same, before⟩
  · exact .inl ((order.less_iff insideA insideB).mpr lt)
  · exact .inr ⟨(order.not_less_iff insideB insideA).mpr same.le, before⟩

theorem stableSortDescending_pairwise (order : OrdersByKey less within key) {items : List α}
    (inside : ∀ a ∈ items, within a) {related : α → α → Prop} (arranged : items.Pairwise related) :
    (stableSortDescending less items).Pairwise fun a b =>
      less b a = true ∨ less a b = false ∧ related a b := by
  have sorted := stableSortDescending_stablySorted order inside
  refine (sorted.pairwise_lex arranged).imp_of_mem fun {a b} memberA memberB lex => ?_
  have insideA := inside a (sorted.ties.mem_iff.mp memberA)
  have insideB := inside b (sorted.ties.mem_iff.mp memberB)
  rcases lex with gt | ⟨same, before⟩
  · exact .inl ((order.less_iff insideB insideA).mpr gt)
  · have le : key b ≤ key a := (OrderDual.toDual_inj.mp same).ge
    exact .inr ⟨(order.not_less_iff insideA insideB).mpr le, before⟩

theorem stableSort_map {image : β → α} (order : OrdersByKey less within key) {sources : List β}
    (inside : ∀ b ∈ sources, within (image b)) :
    stableSort less (sources.map image) =
      (stableSort (fun a b => less (image a) (image b)) sources).map image :=
  (stableSort_stablySorted order (List.forall_mem_map.mpr inside)).unique
    (stableSort_stablySorted (order.comp image) inside).map

theorem stableSortDescending_map {image : β → α} (order : OrdersByKey less within key)
    {sources : List β} (inside : ∀ b ∈ sources, within (image b)) :
    stableSortDescending less (sources.map image) =
      (stableSortDescending (fun a b => less (image a) (image b)) sources).map image := by
  simp only [stableSortDescending]
  rw [← List.map_reverse, stableSort_map order fun b member => inside b (List.mem_reverse.mp member),
    List.map_reverse]

end DerivedQuery
