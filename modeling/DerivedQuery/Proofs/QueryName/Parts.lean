import DerivedQuery.Proofs.Clause.Keyword
import DerivedQuery.Proofs.Name.Separated
import DerivedQuery.Proofs.Passes
import DerivedQuery.QueryName.Parse
import Mathlib.Data.List.TakeWhile

/-!
# The parts of a query name

The words behind the verb are the subject up to the first `By` and then the predicate, in which
`OrderBy` opens the sort keys. Each relation below says what the words of one part spell, and the
reader of that part finds exactly this.
-/

set_option autoImplicit false

namespace DerivedQuery

/-- The first `By` separates the subject from the predicate. Without one all words are the subject.
-/
inductive SubjectSplit : List Word → List Word → List Word → Prop where
  | whole {words} : (∀ word ∈ words, word.key ≠ "by") → SubjectSplit words words []
  | atBy {subject separator predicate} :
      (∀ word ∈ subject, word.key ≠ "by") → separator.key = "by" →
      SubjectSplit (subject ++ separator :: predicate) subject predicate

def Word.OpensLimit (word : Word) : Prop := word.key = "first" ∨ word.key = "top"

def Word.IsNumber (word : Word) : Prop :=
  word.text ≠ "" ∧ ∀ c ∈ word.text.toList, Text.isDigit c = true

/-- The words of a subject behind a leading `Distinct`. -/
def behindDistinct : List Word → List Word
  | [] => []
  | word :: rest => if word.key = "distinct" then rest else word :: rest

/-- The limit that words state at their start: the number behind `First` or `Top`, or one. -/
inductive LimitReads : List Word → Option Nat → Prop where
  | absent {words} : (∀ word ∈ words.head?, ¬ word.OpensLimit) → LimitReads words none
  | number {word number rest} :
      word.OpensLimit → number.IsNumber →
      LimitReads (word :: number :: rest) (some (Text.digitsValue number.text.toList))
  | one {word rest} :
      word.OpensLimit → (∀ number ∈ rest.head?, ¬ number.IsNumber) →
      LimitReads (word :: rest) (some 1)

/-- The words have `Order` and `By` side by side between two parts. -/
def OrderPair (words before after : List Word) : Prop :=
  ∃ first second, words = before ++ first :: second :: after ∧
    first.key = "order" ∧ second.key = "by"

/-- The only `OrderBy`, if there is any, separates the clauses from the sort keys. -/
inductive OrderSplit : List Word → List Word → Option (List Word) → Prop where
  | absent {words} : (∀ before after, ¬ OrderPair words before after) → OrderSplit words words none
  | once {words before after} :
      OrderPair words before after →
      (∀ before' after', OrderPair words before' after' → before' = before) →
      OrderSplit words before (some after)

/-- The words spell sort keys: properties each followed by a direction, which the last one may omit.
-/
inductive SortReads (style : NameStyle) : List Word → List SortKey → Prop where
  | nil : SortReads style [] []
  | undirected {property} :
      property ≠ [] → (∀ word ∈ property, Direction.ofKey? word.key = none) →
      SortReads style property [⟨joinProperty style property, .ascending⟩]
  | directed {property word direction rest keys} :
      property ≠ [] → (∀ word ∈ property, Direction.ofKey? word.key = none) →
      Direction.ofKey? word.key = some direction → SortReads style rest keys →
      SortReads style (property ++ word :: rest) (⟨joinProperty style property, direction⟩ :: keys)

/-- The words spell what stands behind `OrderBy`, where there is one. -/
inductive OrderingReads (style : NameStyle) : Option (List Word) → List SortKey → Prop where
  | absent : OrderingReads style none []
  | present {words keys} :
      words ≠ [] → SortReads style words keys → OrderingReads style (some words) keys

/-- The words spell groups of clauses, separated by `Or`, the clauses of a group by `And`. -/
inductive PredicateReads (style : NameStyle) : List Word → List (List Clause) → Prop where
  | absent : PredicateReads style [] []
  | present {words groups} :
      words ≠ [] →
      Separated (fun word => word.key == "or")
        (Separated (fun word => word.key == "and") (ClauseReads style)) words groups →
      PredicateReads style words groups

theorem subjectSplit_iff {words subject predicate : List Word} :
    SubjectSplit words subject predicate ↔
      QueryName.splitSubject words = (subject, predicate) := by
  have whole {words : List Word} (plain : ∀ word ∈ words, word.key ≠ "by") :
      QueryName.splitSubject words = (words, []) := by
    have kept : words.takeWhile (·.key != "by") = words :=
      List.takeWhile_eq_self_iff.mpr fun word member => by simpa using plain word member
    have dropped : words.dropWhile (·.key != "by") = [] :=
      List.dropWhile_eq_nil_iff.mpr fun word member => by simpa using plain word member
    rw [QueryName.splitSubject, kept, dropped, List.drop_nil]
  have atBy {front back : List Word} {word : Word} (plain : ∀ word ∈ front, word.key ≠ "by")
      (isBy : word.key = "by") : QueryName.splitSubject (front ++ word :: back) = (front, back) := by
    have passes : ∀ other ∈ front, (other.key != "by") = true := fun other member => by
      simpa using plain other member
    simp [QueryName.splitSubject, List.takeWhile_append_of_pos passes,
      List.dropWhile_append_of_pos passes, isBy]
  constructor
  · intro split
    cases split with
    | whole plain => exact whole plain
    | atBy plain isBy => exact atBy plain isBy
  · intro split
    rcases plain_or_split (fun word : Word => word.key == "by") words with
      plain | ⟨front, word, back, rfl, plain, isBy⟩
    · have plain : ∀ word ∈ words, word.key ≠ "by" := by simpa using plain
      obtain ⟨rfl, rfl⟩ := Prod.mk.inj ((whole plain).symm.trans split)
      exact .whole plain
    · have plain : ∀ word ∈ front, word.key ≠ "by" := by simpa using plain
      have isBy : word.key = "by" := by simpa using isBy
      obtain ⟨rfl, rfl⟩ := Prod.mk.inj ((atBy plain isBy).symm.trans split)
      exact .atBy plain isBy

theorem Word.isNumber_iff {word : Word} :
    word.IsNumber ↔ (word.text.toList.isEmpty || !word.text.toList.all Text.isDigit) = false := by
  simp [IsNumber]

theorem exists_limitReads (words : List Word) : ∃ limit, LimitReads words limit := by
  cases words with
  | nil => exact ⟨none, .absent (by simp)⟩
  | cons word rest =>
      by_cases opens : word.OpensLimit
      · cases rest with
        | nil => exact ⟨some 1, .one opens (by simp)⟩
        | cons number rest =>
            by_cases isNumber : number.IsNumber
            · exact ⟨_, .number opens isNumber⟩
            · exact ⟨some 1, .one opens (by simpa using isNumber)⟩
      · exact ⟨none, .absent (by simpa using opens)⟩

/-- The limit at the start of words, as it is read. -/
def readLimit : List Word → Except NameFault (Option Nat)
  | [] => .ok none
  | word :: rest =>
      if word.key = "first" || word.key = "top" then (QueryName.limitOf rest).map some
      else .ok none

theorem parseLimit_eq (subject : List Word) :
    QueryName.parseLimit subject = readLimit (behindDistinct subject) := by
  cases subject <;> rfl

private theorem LimitReads.read {words : List Word} {limit : Option Nat}
    (short : ∀ word number rest, words = word :: number :: rest → word.OpensLimit →
      number.IsNumber → number.text.length ≤ Numeral.maxDigits)
    (reads : LimitReads words limit) : readLimit words = .ok limit := by
  cases reads with
  | absent plain =>
      cases words with
      | nil => rfl
      | cons word rest =>
          have closed : ¬ (word.key = "first" ∨ word.key = "top") := plain word rfl
          simp [readLimit, closed]
  | @number word number rest opens isNumber =>
      have isOpen : (word.key = "first" ∨ word.key = "top") = True := eq_true opens
      have fits : ¬ Numeral.maxDigits < number.text.toList.length := by
        rw [String.length_toList]
        exact Nat.not_lt.mpr (short word number rest rfl opens isNumber)
      have read : QueryName.limitOf (number :: rest) =
          .ok (Text.digitsValue number.text.toList) := by
        simp [QueryName.limitOf, Word.isNumber_iff.mp isNumber, fits]
      simp [readLimit, isOpen, read, Except.map]
  | @one word rest opens none =>
      have isOpen : (word.key = "first" ∨ word.key = "top") = True := eq_true opens
      have read : QueryName.limitOf rest = .ok 1 := by
        cases rest with
        | nil => rfl
        | cons number rest =>
            have noNumber := Word.isNumber_iff.not.mp (none number rfl)
            simp only [Bool.not_eq_false] at noNumber
            simp [QueryName.limitOf, noNumber]
      simp [readLimit, isOpen, read, Except.map]

/-- Reading the limit finds what the words state, if the number has not too many digits. -/
theorem limitReads_iff {subject : List Word} {limit : Option Nat}
    (short : ∀ word number rest, behindDistinct subject = word :: number :: rest →
      word.OpensLimit → number.IsNumber → number.text.length ≤ Numeral.maxDigits) :
    LimitReads (behindDistinct subject) limit ↔ QueryName.parseLimit subject = .ok limit := by
  rw [parseLimit_eq]
  constructor
  · exact LimitReads.read short
  · intro read
    obtain ⟨other, reads⟩ := exists_limitReads (behindDistinct subject)
    obtain rfl := Except.ok.inj ((reads.read short).symm.trans read)
    exact reads

theorem orderPair_cons {word : Word} {words before after : List Word} :
    OrderPair (word :: words) before after ↔
      (before = [] ∧ word.key = "order" ∧
        ∃ second, words = second :: after ∧ second.key = "by") ∨
      ∃ front, before = word :: front ∧ OrderPair words front after := by
  cases before with
  | nil =>
      simp only [OrderPair, List.nil_append, List.cons_eq_cons, true_and, reduceCtorEq, false_and,
        exists_false, or_false]
      constructor
      · rintro ⟨first, second, ⟨rfl, rfl⟩, isOrder, isBy⟩
        exact ⟨isOrder, second, rfl, isBy⟩
      · rintro ⟨isOrder, second, rfl, isBy⟩
        exact ⟨word, second, ⟨rfl, rfl⟩, isOrder, isBy⟩
  | cons head front =>
      simp only [OrderPair, List.cons_append, List.cons_eq_cons, reduceCtorEq, false_and, false_or]
      constructor
      · rintro ⟨first, second, ⟨rfl, rfl⟩, isOrder, isBy⟩
        exact ⟨front, ⟨rfl, rfl⟩, first, second, rfl, isOrder, isBy⟩
      · rintro ⟨_, ⟨rfl, rfl⟩, first, second, rfl, isOrder, isBy⟩
        exact ⟨first, second, ⟨rfl, rfl⟩, isOrder, isBy⟩

namespace QueryName

theorem splitOrderBy?_eq_none {words : List Word} :
    splitOrderBy? words = none ↔ ∀ before after, ¬ OrderPair words before after := by
  fun_induction splitOrderBy? words with
  | case1 first second rest isPair =>
      simp only [Bool.and_eq_true, decide_eq_true_eq] at isPair
      refine ⟨(nomatch ·), fun none => absurd ?_ (none [] rest)⟩
      exact ⟨first, second, rfl, isPair⟩
  | case2 first second rest noPair ih =>
      simp only [Bool.and_eq_true, decide_eq_true_eq] at noPair
      rw [Option.map_eq_none_iff, ih]
      constructor
      · intro none before after pair
        rcases orderPair_cons.mp pair with ⟨-, isOrder, other, same, isBy⟩ | ⟨front, -, later⟩
        · obtain ⟨rfl, -⟩ := List.cons_eq_cons.mp same
          exact noPair ⟨isOrder, isBy⟩
        · exact none front after later
      · intro none before after pair
        exact none _ after (orderPair_cons.mpr (.inr ⟨before, rfl, pair⟩))
  | case3 words short =>
      refine ⟨fun _ before after => ?_, fun _ => rfl⟩
      rintro ⟨first, second, rfl, -⟩
      cases before with
      | nil => exact short first second after rfl
      | cons head before =>
          cases before with
          | nil => exact short head first (second :: after) rfl
          | cons next before => exact short head next _ rfl

/-- The first pair is found; every other pair stands behind it. -/
theorem orderPair_of_splitOrderBy? {words before after : List Word}
    (found : splitOrderBy? words = some (before, after)) :
    OrderPair words before after ∧ ∀ before' after', OrderPair words before' after' →
      (before' = before ∧ after' = after) ∨ before.length < before'.length ∧
        ∃ between, OrderPair after between after' := by
  fun_induction splitOrderBy? words generalizing before with
  | case1 first second rest isPair =>
      simp only [Bool.and_eq_true, decide_eq_true_eq] at isPair
      obtain ⟨rfl, rfl⟩ := Prod.mk.inj (Option.some.inj found)
      refine ⟨⟨first, second, rfl, isPair⟩, fun before' after' pair => ?_⟩
      rcases orderPair_cons.mp pair with ⟨rfl, -, other, same, -⟩ | ⟨front, rfl, further⟩
      · obtain ⟨-, rfl⟩ := List.cons_eq_cons.mp same
        exact .inl ⟨rfl, rfl⟩
      · rcases orderPair_cons.mp further with ⟨-, isOrder, -⟩ | ⟨between, rfl, later⟩
        · exact absurd (isPair.2.symm.trans isOrder) (by decide)
        · exact .inr ⟨by simp, between, later⟩
  | case2 first second rest noPair ih =>
      simp only [Bool.and_eq_true, decide_eq_true_eq] at noPair
      obtain ⟨parts, foundRest, same⟩ := Option.map_eq_some_iff.mp found
      obtain ⟨rfl, rfl⟩ := Prod.mk.inj same
      obtain ⟨pair, others⟩ := ih foundRest
      refine ⟨orderPair_cons.mpr (.inr ⟨parts.1, rfl, pair⟩), fun before' after' pair => ?_⟩
      rcases orderPair_cons.mp pair with ⟨-, isOrder, other, same, isBy⟩ | ⟨front, rfl, later⟩
      · obtain ⟨rfl, -⟩ := List.cons_eq_cons.mp same
        exact absurd ⟨isOrder, isBy⟩ noPair
      · rcases others front after' later with ⟨rfl, rfl⟩ | ⟨longer, between, inside⟩
        · exact .inl ⟨rfl, rfl⟩
        · exact .inr ⟨by simpa using longer, between, inside⟩
  | case3 words short => exact nomatch found

end QueryName

/-- A pair behind a pair is a further pair of the words. -/
theorem OrderPair.further {words before after between after' : List Word}
    (pair : OrderPair words before after) (again : OrderPair after between after') :
    ∃ front, OrderPair words front after' ∧ front ≠ before := by
  obtain ⟨first, second, rfl, isOrder, isBy⟩ := pair
  obtain ⟨first', second', rfl, isOrder', isBy'⟩ := again
  refine ⟨before ++ first :: second :: between, ⟨first', second', by simp, isOrder', isBy'⟩, ?_⟩
  simp

theorem orderSplit_iff {words before : List Word} {ordering : Option (List Word)} :
    OrderSplit words before ordering ↔ QueryName.splitOrdering words = .ok (before, ordering) := by
  unfold QueryName.splitOrdering
  cases found : QueryName.splitOrderBy? words with
  | none =>
      have none := QueryName.splitOrderBy?_eq_none.mp found
      constructor
      · intro split
        cases split with
        | absent => rfl
        | once pair => exact absurd pair (none _ _)
      · intro same
        obtain ⟨rfl, rfl⟩ := Prod.mk.inj (Except.ok.inj same)
        exact .absent none
  | some parts =>
      obtain ⟨pair, others⟩ := QueryName.orderPair_of_splitOrderBy? found
      have repeated_iff : (QueryName.splitOrderBy? parts.2).isSome = true ↔
          ¬ ∀ between after', ¬ OrderPair parts.2 between after' := by
        rw [← QueryName.splitOrderBy?_eq_none, Option.isSome_iff_ne_none]
      constructor
      · intro split
        cases split with
        | absent none => exact absurd pair (none _ _)
        | @once _ after only unique =>
            have single : ∀ between after', ¬ OrderPair parts.2 between after' := by
              intro between after' again
              obtain ⟨front, further, differs⟩ := pair.further again
              exact differs ((unique front after' further).trans (unique _ _ pair).symm)
            rcases others _ _ only with ⟨same, same'⟩ | ⟨-, between, inside⟩
            · simp only [repeated_iff.not.mpr (not_not.mpr single), same, same']
              rfl
            · exact absurd inside (single _ _)
      · intro read
        dsimp only at read
        split at read
        · exact nomatch read
        · rename_i single
          obtain ⟨rfl, rfl⟩ := Prod.mk.inj (Except.ok.inj read)
          refine .once pair fun before' after' again => ?_
          rcases others before' after' again with ⟨same, -⟩ | ⟨-, between, inside⟩
          · exact same
          · exact absurd inside (not_not.mp (repeated_iff.not.mp single) between after')

section

variable {style : NameStyle} {words : List Word} {keys : List SortKey}

/-- What stands in front of the first direction is the property of the first sort key. -/
theorem sortReads_directed_iff {property rest : List Word} {word : Word} {direction : Direction}
    (plain : ∀ word ∈ property, Direction.ofKey? word.key = none)
    (directs : Direction.ofKey? word.key = some direction) :
    SortReads style (property ++ word :: rest) keys ↔
      property ≠ [] ∧ ∃ others, SortReads style rest others ∧
        ⟨joinProperty style property, direction⟩ :: others = keys := by
  constructor
  · intro reads
    generalize same : property ++ word :: rest = words at reads
    cases reads with
    | nil => simp at same
    | undirected _ plainAll =>
        have none := plainAll word (same ▸ by simp)
        rw [directs] at none
        exact nomatch none
    | @directed property' word' direction' rest' others nonempty plain' directs' later =>
        have test (front : List Word) (plain : ∀ word ∈ front, Direction.ofKey? word.key = none) :
            ∀ word ∈ front, (Direction.ofKey? word.key).isSome = false := fun word member => by
          simp [plain word member]
        obtain ⟨rfl, rfl, rfl⟩ := split_unique (test property plain) (by simp [directs])
          (test property' plain') (by simp [directs']) same
        obtain rfl := Option.some.inj (directs.symm.trans directs')
        exact ⟨nonempty, others, later, rfl⟩
  · rintro ⟨nonempty, others, later, rfl⟩
    exact .directed nonempty plain directs later

private theorem sortReads_after_iff {pending : List Word}
    (plain : ∀ word ∈ pending, Direction.ofKey? word.key = none) :
    SortReads style (pending ++ words) keys ↔
      QueryName.sortKeysAfter style pending words = .ok keys := by
  induction words generalizing pending keys with
  | nil =>
      rw [List.append_nil, QueryName.sortKeysAfter]
      constructor
      · intro reads
        cases reads with
        | nil => rfl
        | undirected nonempty => simp [nonempty]
        | @directed _ word _ _ _ _ _ directs =>
            have none := plain word (by simp)
            rw [directs] at none
            exact nomatch none
      · intro read
        obtain rfl := Except.ok.inj read
        cases pending with
        | nil => exact .nil
        | cons word pending => exact .undirected (List.cons_ne_nil _ _) plain
  | cons word words ih =>
      unfold QueryName.sortKeysAfter
      cases directs : Direction.ofKey? word.key with
      | none =>
          rw [← ih (List.forall_mem_append.mpr ⟨plain, by simpa using directs⟩),
            List.append_assoc, List.singleton_append]
      | some direction =>
          rw [sortReads_directed_iff plain directs]
          cases pending with
          | nil => simp
          | cons first pending =>
              have later : ∀ others, SortReads style ([] ++ words) others ↔
                  QueryName.sortKeysAfter style [] words = .ok others := fun others =>
                ih (by simp)
              rw [List.nil_append] at later
              simp [later, map_eq_ok]

theorem SortReads.nil_iff (reads : SortReads style words keys) : keys = [] ↔ words = [] := by
  cases reads with
  | nil => simp
  | undirected nonempty => simp [nonempty]
  | directed => simp

theorem orderingReads_iff {ordering : Option (List Word)} :
    OrderingReads style ordering keys ↔ QueryName.parseOrdering style ordering = .ok keys := by
  have later {words : List Word} {keys : List SortKey} : SortReads style words keys ↔
      QueryName.sortKeysAfter style [] words = .ok keys :=
    @sortReads_after_iff style words keys [] (by simp)
  constructor
  · intro reads
    cases reads with
    | absent => rfl
    | present nonempty reads =>
        have some : keys ≠ [] := reads.nil_iff.not.mpr nonempty
        simp [QueryName.parseOrdering, later.mp reads, some, bind, Except.bind]
  · intro read
    cases ordering with
    | none =>
        obtain rfl := Except.ok.inj read
        exact .absent
    | some words =>
        obtain ⟨others, first, read⟩ := bind_eq_ok.mp read
        split at read
        · exact nomatch read
        · rename_i some
          obtain rfl := Except.ok.inj read
          have reads := later.mpr first
          exact .present (reads.nil_iff.not.mp (by simpa using some)) reads

theorem group_iff {clauses : List Clause} (spelled : ∀ word ∈ words, word.text ≠ "") :
    Separated (fun word => word.key == "and") (ClauseReads style) words clauses ↔
      QueryName.parseGroup style words = .ok clauses := by
  have inPiece : ∀ piece ∈ splitOn "and" words, ∀ word ∈ piece, word.text ≠ "" :=
    fun piece inside word member => spelled word (mem_of_mem_splitWhen inside member)
  rw [separated_iff]
  change List.Forall₂ (ClauseReads style) (splitOn "and" words) clauses ↔ _
  unfold QueryName.parseGroup
  dsimp only
  split
  · rename_i dangles
    obtain ⟨piece, inside, empty⟩ := List.any_eq_true.mp dangles
    refine ⟨fun all => ?_, (nomatch ·)⟩
    have reads := exists_forall₂.mp ⟨clauses, all⟩ piece inside
    exact absurd (List.isEmpty_iff.mp empty) (exists_clauseReads_iff.mp reads)
  · rw [mapM_eq_ok]
    refine forall₂_congr_of_mem fun piece inside clause => ?_
    rw [clauseReads_iff (inPiece piece inside)]
    cases Clause.ofWords? style piece <;> simp

theorem predicateReads_iff {groups : List (List Clause)}
    (spelled : ∀ word ∈ words, word.text ≠ "") :
    PredicateReads style words groups ↔ QueryName.parsePredicate style words = .ok groups := by
  have separated (nonempty : words ≠ []) :
      Separated (fun word => word.key == "or")
        (Separated (fun word => word.key == "and") (ClauseReads style)) words groups ↔
        QueryName.parsePredicate style words = .ok groups := by
    unfold QueryName.parsePredicate
    rw [if_neg (by simpa using nonempty), mapM_eq_ok, separated_iff]
    exact forall₂_congr_of_mem fun piece inside clauses => group_iff fun word member =>
      spelled word (mem_of_mem_splitWhen inside member)
  constructor
  · intro reads
    cases reads with
    | absent => rfl
    | present nonempty reads => exact (separated nonempty).mp reads
  · intro read
    cases words with
    | nil =>
        obtain rfl := Except.ok.inj read
        exact .absent
    | cons word words => exact .present (by simp) ((separated (by simp)).mpr read)

end

end DerivedQuery
