import DerivedQuery.Proofs.Sorting.Arrangement
import DerivedQuery.Proofs.Sorting.Search
import DerivedQuery.StableSort.Merge

/-!
# Merges of rising runs

Whatever its pace and its end, a merge of two rising runs puts out what the plain merge does, which
takes the first item of the left run unless that of the right one is less. The relation needs to
agree with the order of the keys only on the items that are `within` its domain.
-/

set_option autoImplicit false

namespace DerivedQuery

variable {α κ : Type} [LinearOrder κ]

/-- On the items of a domain, the relation is the strict order of the keys. -/
structure OrdersByKey (less : α → α → Bool) (within : α → Prop) (key : α → κ) : Prop where
  less_iff : ∀ {a b : α}, within a → within b → (less a b = true ↔ key a < key b)

namespace OrdersByKey

variable {less : α → α → Bool} {within : α → Prop} {key : α → κ}

theorem not_less_iff (order : OrdersByKey less within key) {a b : α} (left : within a)
    (right : within b) : less a b = false ↔ key b ≤ key a := by
  rw [← not_lt, ← order.less_iff left right, Bool.not_eq_true]

theorem dual (order : OrdersByKey less within key) :
    OrdersByKey (fun a b => less b a) within (OrderDual.toDual ∘ key) :=
  ⟨fun left right => order.less_iff right left⟩

theorem comp {β : Type} (order : OrdersByKey less within key) (image : β → α) :
    OrdersByKey (fun a b => less (image a) (image b)) (within ∘ image) (key ∘ image) :=
  ⟨fun left right => order.less_iff left right⟩

end OrdersByKey

/-- A list in rising order, all of whose items are in the domain. -/
structure RisingRun (within : α → Prop) (key : α → κ) (items : List α) : Prop where
  within : ∀ a ∈ items, within a
  rising : items.Pairwise fun a b => key a ≤ key b

namespace RisingRun

variable {less : α → α → Bool} {within : α → Prop} {key : α → κ} {items out : List α}

theorem sublist (run : RisingRun within key items) (part : out.Sublist items) :
    RisingRun within key out :=
  ⟨fun a member => run.within a (part.subset member), run.rising.sublist part⟩

theorem of_stablySorted (all : ∀ a ∈ items, within a) (sorted : StablySorted key items out) :
    RisingRun within key out :=
  ⟨fun a member => all a (sorted.ties.mem_iff.mp member), sorted.rising⟩

theorem reverse (run : RisingRun within key items) :
    RisingRun within (OrderDual.toDual ∘ key) items.reverse :=
  ⟨fun a member => run.within a (List.mem_reverse.mp member),
    List.pairwise_reverse.mpr run.rising⟩

theorem passFirst_le (run : RisingRun within key items) (order : OrdersByKey less within key)
    {bound : α} (inside : within bound) : PassFirst (fun a => !less bound a) items := by
  refine List.Pairwise.imp_of_mem ?_ run.rising
  intro a b memberA memberB le passed
  rw [Bool.not_eq_true', order.not_less_iff inside (run.within b memberB)] at passed
  rw [Bool.not_eq_true', order.not_less_iff inside (run.within a memberA)]
  exact le.trans passed

theorem passFirst_lt (run : RisingRun within key items) (order : OrdersByKey less within key)
    {bound : α} (inside : within bound) : PassFirst (fun a => less a bound) items := by
  refine List.Pairwise.imp_of_mem ?_ run.rising
  intro a b memberA memberB le passed
  rw [order.less_iff (run.within b memberB) inside] at passed
  rw [order.less_iff (run.within a memberA) inside]
  exact lt_of_le_of_lt le passed

end RisingRun

/-- The plain merge: an item of the right run goes first only when it is less. -/
def plainMerge (less : α → α → Bool) (left right : List α) : List α :=
  left.merge right fun a b => !less b a

section plainMerge

variable {less : α → α → Bool}

theorem plainMerge_nil_left (right : List α) : plainMerge less [] right = right :=
  List.nil_merge right

theorem plainMerge_nil_right (left : List α) : plainMerge less left [] = left :=
  List.merge_right left

theorem plainMerge_cons_left {l r : α} {left right : List α} (keeps : less r l = false) :
    plainMerge less (l :: left) (r :: right) = l :: plainMerge less left (r :: right) :=
  List.cons_merge_cons_pos _ _ _ (by simp [keeps])

theorem plainMerge_cons_right {l r : α} {left right : List α} (goes : less r l = true) :
    plainMerge less (l :: left) (r :: right) = r :: plainMerge less (l :: left) right :=
  List.cons_merge_cons_neg _ _ _ (by simp [goes])

theorem plainMerge_append_left {before left right : List α} {r : α}
    (keep : ∀ a ∈ before, less r a = false) :
    plainMerge less (before ++ left) (r :: right) =
      before ++ plainMerge less left (r :: right) := by
  induction before with
  | nil => rfl
  | cons a before ih =>
      rw [List.cons_append, plainMerge_cons_left (keep a (by simp)),
        ih fun b member => keep b (by simp [member]), List.cons_append]

theorem plainMerge_append_right {before left right : List α} {l : α}
    (go : ∀ b ∈ before, less b l = true) :
    plainMerge less (l :: left) (before ++ right) =
      before ++ plainMerge less (l :: left) right := by
  induction before with
  | nil => rfl
  | cons b before ih =>
      rw [List.cons_append, plainMerge_cons_right (go b (by simp)),
        ih fun c member => go c (by simp [member]), List.cons_append]

/-- The plain merge of two rising runs is their stable arrangement. -/
theorem plainMerge_stablySorted {within : α → Prop} {key : α → κ}
    (order : OrdersByKey less within key) {left right : List α}
    (runLeft : RisingRun within key left) (runRight : RisingRun within key right) :
    StablySorted key (left ++ right) (plainMerge less left right) := by
  induction left generalizing right with
  | nil =>
      rw [plainMerge_nil_left]
      exact .of_rising runRight.rising
  | cons l left ih =>
      have restLeft := runLeft.sublist (List.sublist_cons_self l left)
      have insideL := runLeft.within l (by simp)
      induction right with
      | nil =>
          rw [plainMerge_nil_right, List.append_nil]
          exact .of_rising runLeft.rising
      | cons r right ihRight =>
          have restRight := runRight.sublist (List.sublist_cons_self r right)
          have insideR := runRight.within r (by simp)
          have lowest : ∀ b ∈ right, key r ≤ key b := fun b member =>
            List.rel_of_pairwise_cons runRight.rising member
          have lowestLeft : ∀ a ∈ left, key l ≤ key a := fun a member =>
            List.rel_of_pairwise_cons runLeft.rising member
          cases goes : less r l with
          | false =>
              have le := (order.not_less_iff insideR insideL).mp goes
              rw [plainMerge_cons_left goes]
              refine .cons (fun b member => ?_) (ih restLeft runRight)
              rcases List.mem_append.mp member with inLeft | inRight
              · exact lowestLeft b inLeft
              · rcases List.mem_cons.mp inRight with rfl | inRight
                · exact le
                · exact le.trans (lowest b inRight)
          | true =>
              have lt := (order.less_iff insideR insideL).mp goes
              have above : ∀ a ∈ l :: left, key r < key a := by
                simpa using ⟨lt, fun a member => lt.trans_le (lowestLeft a member)⟩
              rw [plainMerge_cons_right goes]
              exact (ihRight restRight).cons_of_above above lowest

end plainMerge

/-- The last item of the left run lies above all items of the right one. -/
def EndsAbove (key : α → κ) (left right : List α) : Prop :=
  ∀ last ∈ left.getLast?, ∀ b ∈ right, key b < key last

theorem EndsAbove.suffix {key : α → κ} {left right leftPart rightPart : List α}
    (above : EndsAbove key left right) (fromLeft : leftPart <:+ left)
    (fromRight : rightPart <:+ right) : EndsAbove key leftPart rightPart := by
  intro last isLast b member
  obtain ⟨front, rfl⟩ := fromLeft
  refine above last ?_ b (fromRight.subset member)
  rw [List.getLast?_append, Option.mem_def.mp isLast]
  rfl

/-- What part of a merge puts out comes first in the plain merge, and the plain merge of what it
leaves over follows. -/
structure MergePart.Faithful (less : α → α → Bool) (left right : List α) (part : MergePart α) :
    Prop where
  merged : plainMerge less left right = part.merged ++ plainMerge less part.left part.right
  left : part.left <:+ left
  right : part.right <:+ right

namespace MergePart

variable {less : α → α → Bool} {within : α → Prop} {key : α → κ} {left right : List α}

theorem gallopLeft_faithful (order : OrdersByKey less within key) (fromEnd : Bool)
    (runLeft : RisingRun within key left) (runRight : RisingRun within key right) :
    (gallopLeft fromEnd less left right).Faithful less left right := by
  cases right with
  | nil => exact ⟨by simp [gallopLeft], List.suffix_rfl, List.suffix_rfl⟩
  | cons r rest =>
      have first := runLeft.passFirst_le order (runRight.within r (by simp))
      obtain ⟨taken, dropped⟩ := first.take_drop_countP
      have cut := List.take_append_drop (left.countP fun a => !less r a) left
      have ahead : plainMerge less left (r :: rest) = left.take (left.countP fun a => !less r a) ++
          plainMerge less (left.drop (left.countP fun a => !less r a)) (r :: rest) := by
        conv_lhs => rw [← cut]
        exact plainMerge_append_left fun a member => by simpa using taken a member
      simp only [gallopLeft, gallop_eq_countP fromEnd first]
      split
      · exact ⟨ahead, List.drop_suffix _ _, List.suffix_rfl⟩
      · next more =>
          refine ⟨?_, List.drop_suffix _ _, List.suffix_cons r rest⟩
          cases remaining : left.drop (left.countP fun a => !less r a) with
          | nil =>
              have := List.drop_eq_nil_iff.mp remaining
              omega
          | cons l others =>
              have goes : less r l = true := by
                simpa using dropped l (by simp [remaining])
              rw [ahead, remaining, plainMerge_cons_right goes]
              simp

theorem gallopRight_faithful (order : OrdersByKey less within key) (fromEnd : Bool)
    (runLeft : RisingRun within key left) (runRight : RisingRun within key right) :
    (gallopRight fromEnd less left right).Faithful less left right := by
  cases left with
  | nil => exact ⟨by simp [gallopRight], List.suffix_rfl, List.suffix_rfl⟩
  | cons l rest =>
      have first := runRight.passFirst_lt order (runLeft.within l (by simp))
      obtain ⟨taken, dropped⟩ := first.take_drop_countP
      have cut := List.take_append_drop (right.countP fun b => less b l) right
      have ahead : plainMerge less (l :: rest) right = right.take (right.countP fun b => less b l) ++
          plainMerge less (l :: rest) (right.drop (right.countP fun b => less b l)) := by
        conv_lhs => rw [← cut]
        exact plainMerge_append_right taken
      simp only [gallopRight, gallop_eq_countP fromEnd first]
      split
      · exact ⟨ahead, List.suffix_rfl, List.drop_suffix _ _⟩
      · next more =>
          refine ⟨?_, List.suffix_cons l rest, List.drop_suffix _ _⟩
          cases remaining : right.drop (right.countP fun b => less b l) with
          | nil =>
              have := List.drop_eq_nil_iff.mp remaining
              omega
          | cons r others =>
              have keeps : less r l = false := dropped r (by simp [remaining])
              rw [ahead, remaining, plainMerge_cons_left keeps]
              simp

theorem Faithful.andThen {first second : MergePart α} (before : first.Faithful less left right)
    (after : second.Faithful less first.left first.right) (moved : Nat) :
    MergePart.Faithful less left right
      ⟨first.merged ++ second.merged, second.left, second.right, moved⟩ where
  merged := by rw [before.merged, after.merged, List.append_assoc]
  left := after.left.trans before.left
  right := after.right.trans before.right

end MergePart

section

variable {less : α → α → Bool} {within : α → Prop} {key : α → κ} {left right : List α}

theorem gallopRound_faithful (order : OrdersByKey less within key) (fromEnd : Bool)
    (runLeft : RisingRun within key left) (runRight : RisingRun within key right) :
    (gallopRound fromEnd less left right).Faithful less left right := by
  cases fromEnd with
  | false =>
      have before := MergePart.gallopLeft_faithful order false runLeft runRight
      simp only [gallopRound, Bool.false_eq_true, if_false]
      split
      · exact before
      · exact before.andThen (MergePart.gallopRight_faithful order false
          (runLeft.sublist before.left.sublist) (runRight.sublist before.right.sublist)) _
  | true =>
      have before := MergePart.gallopRight_faithful order true runLeft runRight
      simp only [gallopRound, if_true]
      split
      · exact before
      · exact before.andThen (MergePart.gallopLeft_faithful order true
          (runLeft.sublist before.left.sublist) (runRight.sublist before.right.sublist)) _

/-- A merge at any pace is the plain merge. -/
theorem mergeAt_eq_plainMerge (order : OrdersByKey less within key) (fromEnd : Bool)
    (patience : Nat) (pace : MergePace) (runLeft : RisingRun within key left)
    (runRight : RisingRun within key right) (above : EndsAbove key left right) :
    (mergeAt fromEnd less patience pace left right).1 = plainMerge less left right := by
  fun_induction mergeAt fromEnd less patience pace left right with
  | case1 => exact (plainMerge_nil_right _).symm
  | case2 => exact (plainMerge_nil_left _).symm
  | case3 patience pace last right =>
      have inside := runLeft.within last (by simp)
      have go : ∀ b ∈ right, less b last = true := fun b member =>
        (order.less_iff (runRight.within b member) inside).mpr (above last rfl b member)
      have all := @plainMerge_append_right _ less right [] [] last go
      simpa [plainMerge_nil_right] using all.symm
  | case4 patience l next restLeft r restRight leftWins rightWins goes pace merged ih =>
      rw [plainMerge_cons_right goes]
      refine congrArg (r :: ·) (ih runLeft (runRight.sublist (List.sublist_cons_self r _)) ?_)
      exact above.suffix List.suffix_rfl (List.suffix_cons r _)
  | case5 patience l next restLeft r restRight leftWins rightWins keeps pace merged ih =>
      rw [plainMerge_cons_left (Bool.eq_false_iff.mpr keeps)]
      refine congrArg (l :: ·) (ih (runLeft.sublist (List.sublist_cons_self l _)) runRight ?_)
      exact above.suffix (List.suffix_cons l _) List.suffix_rfl
  | case6 patience l next restLeft r restRight round again patience pace merged ih =>
      have faithful : round.Faithful less (l :: next :: restLeft) (r :: restRight) :=
        gallopRound_faithful order fromEnd runLeft runRight
      rw [faithful.merged]
      exact congrArg (round.merged ++ ·) (ih (runLeft.sublist faithful.left.sublist)
        (runRight.sublist faithful.right.sublist) (above.suffix faithful.left faithful.right))

theorem mergeAt_stablySorted (order : OrdersByKey less within key) (fromEnd : Bool)
    (patience : Nat) (pace : MergePace) (runLeft : RisingRun within key left)
    (runRight : RisingRun within key right) (above : EndsAbove key left right) :
    StablySorted key (left ++ right) (mergeAt fromEnd less patience pace left right).1 := by
  rw [mergeAt_eq_plainMerge order fromEnd patience pace runLeft runRight above]
  exact plainMerge_stablySorted order runLeft runRight

/-- A merge from either end, of runs that cross at both ends. -/
theorem mergeCrossed_stablySorted (order : OrdersByKey less within key) (patience : Nat)
    {first : α} {rest : List α} (runLeft : RisingRun within key left)
    (runRight : RisingRun within key (first :: rest)) (below : ∀ a ∈ left, key first < key a)
    (above : EndsAbove key left (first :: rest)) :
    StablySorted key (left ++ first :: rest) (mergeCrossed less patience left (first :: rest)).1 := by
  have runRest := runRight.sublist (List.sublist_cons_self first rest)
  simp only [mergeCrossed]
  split
  · have merged := mergeAt_stablySorted order false patience (.steps 0 0) runLeft runRest
      (above.suffix List.suffix_rfl (List.suffix_cons first rest))
    exact merged.cons_of_above below fun b member =>
      List.rel_of_pairwise_cons runRight.rising member
  · next shorter =>
      have nonempty : left ≠ [] := fun none => shorter (by simp [none])
      -- The last item of the left run goes last; what remains is merged from the end.
      have whole := List.dropLast_append_getLast nonempty
      generalize left.getLast nonempty = last at whole
      generalize left.dropLast = others at whole
      subst whole
      have runOthers := runLeft.sublist (List.sublist_append_left others [last])
      have highest : ∀ b ∈ first :: rest, key b < key last := above last (by simp)
      have belowOthers : ∀ a ∈ others, key first < key a := fun a member =>
        below a (List.mem_append_left _ member)
      have merged := mergeAt_stablySorted order.dual true patience (.steps 0 0) runRight.reverse
        runOthers.reverse (by
          intro low isLow a member
          obtain rfl : first = low := by simpa using isLow
          exact belowOthers a (List.mem_reverse.mp member))
      have turned := merged.reverse_dual
      rw [List.reverse_append, List.reverse_reverse, List.reverse_reverse] at turned
      have jump : KeepsTies key ([last] ++ first :: rest) (first :: rest ++ [last]) := by
        refine KeepsTies.swap fun a single b member => ?_
        rw [List.mem_singleton.mp single]
        exact (highest b member).ne'
      have moved := (KeepsTies.refl key others).append jump
      rw [← List.append_assoc, ← List.append_assoc] at moved
      have top : ∀ a ∈ others ++ first :: rest, key a ≤ key last := by
        intro a member
        rcases List.mem_append.mp member with inOthers | inRight
        · exact (List.pairwise_append.mp runLeft.rising).2.2 a inOthers last (by simp)
        · exact (highest a inRight).le
      simpa using StablySorted.trans_ties moved (turned.concat top)

theorem RisingRun.first_le {first : α} {rest : List α}
    (run : RisingRun within key (first :: rest)) : ∀ a ∈ first :: rest, key first ≤ key a := by
  intro a member
  rcases List.mem_cons.mp member with rfl | inRest
  · exact le_rfl
  · exact List.rel_of_pairwise_cons run.rising inRest

theorem RisingRun.le_last {last : α} (run : RisingRun within key left)
    (isLast : left.getLast? = some last) : ∀ a ∈ left, key a ≤ key last := by
  obtain ⟨others, rfl⟩ := List.getLast?_eq_some_iff.mp isLast
  intro a member
  rcases List.mem_append.mp member with inOthers | single
  · exact (List.pairwise_append.mp run.rising).2.2 a inOthers last (by simp)
  · rw [List.mem_singleton.mp single]

theorem RisingRun.take_le_drop (run : RisingRun within key left) (n : Nat) :
    ∀ a ∈ left.take n, ∀ b ∈ left.drop n, key a ≤ key b := by
  have rising := run.rising
  rw [← List.take_append_drop n left] at rising
  exact (List.pairwise_append.mp rising).2.2

/-- A front that lies below all other items and an end that lies above them stay where they are. -/
theorem StablySorted.around (runLeft : RisingRun within key left)
    (runRight : RisingRun within key right) {n m : Nat} {middle : List α}
    (merged : StablySorted key (left.drop n ++ right.take m) middle)
    (low : ∀ a ∈ left.take n, ∀ b ∈ right, key a ≤ key b)
    (high : ∀ b ∈ right.drop m, ∀ a ∈ left, key a ≤ key b) :
    StablySorted key (left ++ right) (left.take n ++ middle ++ right.drop m) := by
  have front : StablySorted key (left.take n) (left.take n) :=
    .of_rising (runLeft.rising.sublist (List.take_sublist n left))
  have back : StablySorted key (right.drop m) (right.drop m) :=
    .of_rising (runRight.rising.sublist (List.drop_sublist m right))
  have joined := (front.append merged fun a inFront b inMiddle => ?_).append back
    fun a before b inBack => ?_
  · have whole : left.take n ++ (left.drop n ++ right.take m) ++ right.drop m = left ++ right := by
      rw [← List.append_assoc, List.take_append_drop, List.append_assoc, List.take_append_drop]
    exact whole ▸ joined
  · rcases List.mem_append.mp inMiddle with inLeft | inRight
    · exact runLeft.take_le_drop n a inFront b inLeft
    · exact low a inFront b (List.mem_of_mem_take inRight)
  · simp only [List.mem_append] at before
    rcases before with inFront | inLeft | inRight
    · exact high b inBack a (List.mem_of_mem_take inFront)
    · exact high b inBack a (List.mem_of_mem_drop inLeft)
    · exact runRight.take_le_drop m a inRight b inBack

/-- Merging two rising runs arranges their items stably. -/
theorem mergeRuns_stablySorted (order : OrdersByKey less within key) (patience : Nat)
    (runLeft : RisingRun within key left) (runRight : RisingRun within key right) :
    StablySorted key (left ++ right) (mergeRuns less patience left right).1 := by
  rcases right with _ | ⟨first, rest⟩
  · simpa [mergeRuns] using StablySorted.of_rising runLeft.rising
  cases isLast : left.getLast? with
  | none =>
      obtain rfl := List.getLast?_eq_none_iff.mp isLast
      simpa [mergeRuns] using StablySorted.of_rising runRight.rising
  | some last =>
      have insideLast := runLeft.within last (List.mem_of_getLast? isLast)
      have insideFirst := runRight.within first (by simp)
      have passLeft := runLeft.passFirst_le order insideFirst
      have passRight := runRight.passFirst_lt order insideLast
      obtain ⟨low, high⟩ := passLeft.take_drop_countP
      obtain ⟨lower, higher⟩ := passRight.take_drop_countP
      have total := List.length_eq_countP_add_countP (fun b => less b last) (l := first :: rest)
      simp only [Bool.not_eq_true, Bool.decide_eq_false] at total
      simp only [mergeRuns, isLast, gallop_eq_countP false passLeft,
        gallop_eq_countP true passRight.reverse_not, List.countP_reverse]
      rw [Nat.sub_eq_of_eq_add total]
      generalize (left.countP fun a => !less first a) = n at low high ⊢
      generalize ((first :: rest).countP fun b => less b last) = m at lower higher ⊢
      have below : ∀ a ∈ left.take n, ∀ b ∈ first :: rest, key a ≤ key b := by
        intro a inFront b inRight
        have inside := runLeft.within a (List.mem_of_mem_take inFront)
        have notBehind := (order.not_less_iff insideFirst inside).mp (by simpa using low a inFront)
        exact notBehind.trans (runRight.first_le b inRight)
      have above : ∀ b ∈ (first :: rest).drop m, ∀ a ∈ left, key a ≤ key b := by
        intro b inBack a inLeft
        have inside := runRight.within b (List.mem_of_mem_drop inBack)
        have notBefore := (order.not_less_iff inside insideLast).mp (higher b inBack)
        exact (runLeft.le_last isLast a inLeft).trans notBefore
      split
      · next inOrder =>
          refine .of_rising (List.pairwise_append.mpr
            ⟨runLeft.rising, runRight.rising, fun a inLeft b inRight => ?_⟩)
          rcases inOrder with all | none
          · rw [List.take_of_length_le all] at below
            exact below a inLeft b inRight
          · subst none
            exact above b inRight a inLeft
      · next crossing =>
          obtain ⟨more, some⟩ := not_or.mp crossing
          obtain ⟨k, rfl⟩ := Nat.exists_eq_succ_of_ne_zero some
          have runMiddle := runLeft.sublist (List.drop_sublist n left)
          have startsBelow : ∀ a ∈ left.drop n, key first < key a := fun a member =>
            (order.less_iff insideFirst (runMiddle.within a member)).mp
              (by simpa using high a member)
          have endsAbove : EndsAbove key (left.drop n) ((first :: rest).take (k + 1)) := by
            intro greatest isGreatest b member
            rw [List.getLast?_drop, if_neg more, isLast] at isGreatest
            obtain rfl : last = greatest := Option.some.inj isGreatest
            exact (order.less_iff (runRight.within b (List.mem_of_mem_take member))
              insideLast).mp (lower b member)
          have merged := mergeCrossed_stablySorted order patience runMiddle
            (runRight.sublist (List.take_sublist (k + 1) (first :: rest))) startsBelow endsAbove
          exact merged.around runLeft runRight below above

end

end DerivedQuery
