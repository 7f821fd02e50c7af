import DerivedQuery.Proofs.QueryName.Parts

/-!
# The grammar of query names

A query name is a verb, a subject and a predicate. The reader accepts the names whose words have
this shape and no others, and it builds the one tree that the words spell.
-/

set_option autoImplicit false

namespace DerivedQuery

/-- The words spell a query name. -/
inductive Derives (style : NameStyle) : List Word → QueryName → Prop where
  | name {verbWord rest subject predicate clauses ordering} {tree : QueryName} :
      verbWord.key = tree.verb.key →
      SubjectSplit rest subject predicate →
      (tree.distinct = true ↔ ∃ word ∈ subject, word.key = "distinct") →
      LimitReads (behindDistinct subject) tree.limit →
      OrderSplit predicate clauses ordering →
      PredicateReads style clauses tree.groups →
      OrderingReads style ordering tree.orders →
      Derives style (verbWord :: rest) tree

def Word.IsDirection (word : Word) : Prop := word.key = "asc" ∨ word.key = "desc"

/-- The words are entries of words other than directions, at least one each, behind which a
direction stands; only the last entry may omit it. There is an entry at least. -/
def SortShape (words : List Word) : Prop :=
  words ≠ [] ∧ ∃ (directed : List (List Word × Word)) (last : List Word),
    words = (directed.flatMap fun entry => entry.1 ++ [entry.2]) ++ last ∧
    (∀ entry ∈ directed, entry.1 ≠ [] ∧ (∀ word ∈ entry.1, ¬ word.IsDirection) ∧
      entry.2.IsDirection) ∧
    ∀ word ∈ last, ¬ word.IsDirection

/-- The words have the shape of a query name: a verb in front, `OrderBy` at most once behind the
first `By`, before it no words or a clause on both sides of every connective, and entries to sort by
behind it. -/
inductive Grammatical : List Word → Prop where
  | name {verbWord rest subject predicate clauses ordering} :
      (∃ verb : Verb, verbWord.key = verb.key) →
      SubjectSplit rest subject predicate →
      OrderSplit predicate clauses ordering →
      (clauses = [] ∨ ∀ piece ∈ splitWhen (fun word => word.key == "or" || word.key == "and")
        clauses, piece ≠ []) →
      (∀ words ∈ ordering, SortShape words) →
      Grammatical (verbWord :: rest)

/-- The word is the number behind `First` or `Top`. -/
inductive LimitNumber : List Word → Word → Prop where
  | here {verbWord rest subject predicate word number others} :
      SubjectSplit rest subject predicate →
      behindDistinct subject = word :: number :: others →
      word.OpensLimit → number.IsNumber → LimitNumber (verbWord :: rest) number

theorem Verb.ofKey?_eq_some {key : String} {verb : Verb} :
    ofKey? key = some verb ↔ key = verb.key := by
  constructor
  · intro found
    have same := List.find?_some found
    exact (beq_iff_eq.mp same).symm
  · rintro rfl
    cases verb <;> decide

theorem subjectSplit_total (words : List Word) :
    ∃ subject predicate, SubjectSplit words subject predicate :=
  ⟨_, _, subjectSplit_iff.mpr rfl⟩

theorem subjectSplit_unique {words subject subject' predicate predicate' : List Word}
    (split : SubjectSplit words subject predicate)
    (again : SubjectSplit words subject' predicate') :
    subject = subject' ∧ predicate = predicate' :=
  Prod.mk.inj ((subjectSplit_iff.mp split).symm.trans (subjectSplit_iff.mp again))

theorem SubjectSplit.subset {words subject predicate : List Word}
    (split : SubjectSplit words subject predicate) : ∀ word ∈ predicate, word ∈ words := by
  cases split with
  | whole => simp
  | atBy => exact fun word member => by simp [member]

theorem OrderSplit.subset {words before : List Word} {ordering : Option (List Word)}
    (split : OrderSplit words before ordering) : ∀ word ∈ before, word ∈ words := by
  cases split with
  | absent => exact fun word member => member
  | once pair =>
      obtain ⟨first, second, rfl, -⟩ := pair
      exact fun word member => by simp [member]

theorem LimitNumber.mem {words : List Word} {number : Word} (limit : LimitNumber words number) :
    number ∈ words := by
  cases limit with
  | @here verbWord rest subject predicate word number others split behind =>
      have inSubject : number ∈ subject := by
        cases subject with
        | nil => simp [behindDistinct] at behind
        | cons first subject =>
            simp only [behindDistinct] at behind
            split at behind
            · simp [behind]
            · obtain ⟨rfl, rfl⟩ := List.cons_eq_cons.mp behind
              simp
      cases split with
      | whole => exact List.mem_cons_of_mem _ inSubject
      | atBy => simp [inSubject]

/-- Reading words gives the tree that they spell. -/
theorem derives_iff {style : NameStyle} {words : List Word} {tree : QueryName}
    (spelled : ∀ word ∈ words, word.text ≠ "")
    (short : ∀ number, LimitNumber words number → number.text.length ≤ Numeral.maxDigits) :
    Derives style words tree ↔ QueryName.ofWords style words = .ok tree := by
  have shortLimit {verbWord : Word} {rest subject predicate : List Word}
      (same : words = verbWord :: rest) (split : SubjectSplit rest subject predicate) :
      ∀ word number others, behindDistinct subject = word :: number :: others →
        word.OpensLimit → number.IsNumber → number.text.length ≤ Numeral.maxDigits :=
    fun word number others behind opens isNumber =>
      short number (same ▸ .here split behind opens isNumber)
  constructor
  · intro derives
    cases derives with
    | @name verbWord rest subject predicate clauses ordering _ verb split distinct limit order
        groups orders =>
        have spelledClauses : ∀ word ∈ clauses, word.text ≠ "" := fun word member =>
          spelled word (List.mem_cons_of_mem _ (split.subset word (order.subset word member)))
        have isDistinct : (subject.any fun word => word.key == "distinct") = tree.distinct := by
          rw [Bool.eq_iff_iff, distinct]
          simp
        rw [QueryName.ofWords, Verb.ofKey?_eq_some.mpr verb]
        dsimp only
        rw [subjectSplit_iff.mp split]
        dsimp only
        rw [(limitReads_iff (shortLimit rfl split)).mp limit, orderSplit_iff.mp order]
        simp [bind, Except.bind, (predicateReads_iff spelledClauses).mp groups,
          orderingReads_iff.mp orders, isDistinct]
  · intro read
    cases words with
    | nil => exact nomatch read
    | cons verbWord rest =>
        obtain ⟨subject, predicate, split⟩ := subjectSplit_total rest
        rw [QueryName.ofWords] at read
        split at read
        · exact nomatch read
        rename_i verb isVerb
        rw [subjectSplit_iff.mp split] at read
        obtain ⟨limit, isLimit, read⟩ := bind_eq_ok.mp read
        obtain ⟨⟨clauses, ordering⟩, order, read⟩ := bind_eq_ok.mp read
        obtain ⟨groups, isGroups, read⟩ := bind_eq_ok.mp read
        obtain ⟨orders, isOrders, read⟩ := bind_eq_ok.mp read
        obtain rfl := Except.ok.inj read
        have order := orderSplit_iff.mpr order
        have spelledClauses : ∀ word ∈ clauses, word.text ≠ "" := fun word member =>
          spelled word (List.mem_cons_of_mem _ (split.subset word (order.subset word member)))
        exact .name (Verb.ofKey?_eq_some.mp isVerb) split (by simp)
          ((limitReads_iff (shortLimit rfl split)).mpr isLimit) order
          ((predicateReads_iff spelledClauses).mpr isGroups) (orderingReads_iff.mpr isOrders)

theorem Direction.ofKey?_eq_none {word : Word} :
    ofKey? word.key = none ↔ ¬ word.IsDirection := by
  unfold ofKey? Word.IsDirection
  by_cases asc : word.key = "asc" <;> by_cases desc : word.key = "desc" <;> simp [asc, desc]

theorem Direction.exists_ofKey? {word : Word} :
    (∃ direction, ofKey? word.key = some direction) ↔ word.IsDirection := by
  rw [← Option.isSome_iff_exists, Option.isSome_iff_ne_none, ne_eq, ofKey?_eq_none, not_not]

theorem exists_sortReads_iff {style : NameStyle} {words : List Word} :
    (words ≠ [] ∧ ∃ keys, SortReads style words keys) ↔ SortShape words := by
  refine and_congr_right fun nonempty => ?_
  clear nonempty
  constructor
  · rintro ⟨keys, reads⟩
    induction reads with
    | nil => exact ⟨[], [], rfl, by simp, by simp⟩
    | @undirected property _ plain =>
        exact ⟨[], property, rfl, by simp, fun word member =>
          Direction.ofKey?_eq_none.mp (plain word member)⟩
    | @directed property word direction rest keys nonempty plain directs _ ih =>
        obtain ⟨directed, last, rfl, entries, undirected⟩ := ih
        refine ⟨(property, word) :: directed, last, by simp, ?_, undirected⟩
        refine List.forall_mem_cons.mpr ⟨⟨nonempty, fun word member => ?_, ?_⟩, entries⟩
        · exact Direction.ofKey?_eq_none.mp (plain word member)
        · exact Direction.exists_ofKey?.mp ⟨direction, directs⟩
  · rintro ⟨directed, last, rfl, entries, undirected⟩
    induction directed with
    | nil =>
        cases last with
        | nil => exact ⟨[], .nil⟩
        | cons word last =>
            exact ⟨_, .undirected (List.cons_ne_nil _ _) fun other member =>
              Direction.ofKey?_eq_none.mpr (undirected other member)⟩
    | cons entry directed ih =>
        obtain ⟨⟨nonempty, plain, isDirection⟩, rest⟩ := List.forall_mem_cons.mp entries
        obtain ⟨keys, reads⟩ := ih rest
        obtain ⟨direction, directs⟩ := Direction.exists_ofKey?.mpr isDirection
        refine ⟨⟨joinProperty style entry.1, direction⟩ :: keys, ?_⟩
        have plain : ∀ word ∈ entry.1, Direction.ofKey? word.key = none := fun word member =>
          Direction.ofKey?_eq_none.mpr (plain word member)
        simpa using SortReads.directed nonempty plain directs reads

theorem exists_predicateReads_iff {style : NameStyle} {words : List Word} :
    (∃ groups, PredicateReads style words groups) ↔
      words = [] ∨ ∀ piece ∈ splitWhen (fun word => word.key == "or" || word.key == "and") words,
        piece ≠ [] := by
  have pieces : (∃ groups, Separated (fun word => word.key == "or")
        (Separated (fun word => word.key == "and") (ClauseReads style)) words groups) ↔
      ∀ piece ∈ splitWhen (fun word => word.key == "or" || word.key == "and") words,
        piece ≠ [] := by
    simp only [separated_iff, splitWhen_or, List.forall_mem_flatMap, exists_forall₂,
      exists_clauseReads_iff]
  by_cases empty : words = []
  · exact ⟨fun _ => .inl empty, fun _ => ⟨[], empty ▸ .absent⟩⟩
  · rw [← pieces, or_iff_right empty]
    constructor
    · rintro ⟨groups, reads⟩
      cases reads with
      | absent => exact absurd rfl empty
      | present _ reads => exact ⟨groups, reads⟩
    · exact fun ⟨groups, reads⟩ => ⟨groups, .present empty reads⟩

theorem exists_derives_iff {style : NameStyle} {words : List Word} :
    (∃ tree, Derives style words tree) ↔ Grammatical words := by
  constructor
  · rintro ⟨tree, derives⟩
    cases derives with
    | @name verbWord rest subject predicate clauses ordering _ verb split _ _ order groups orders =>
        have pieces := exists_predicateReads_iff.mp ⟨_, groups⟩
        refine .name ⟨tree.verb, verb⟩ split order pieces fun words isOrdering => ?_
        generalize tree.orders = keys at orders
        cases orders with
        | absent => exact nomatch isOrdering
        | present nonempty reads =>
            obtain rfl := Option.some.inj isOrdering
            exact exists_sortReads_iff.mp ⟨nonempty, _, reads⟩
  · intro grammatical
    cases grammatical with
    | @name verbWord rest subject predicate clauses ordering isVerb split order pieces shape =>
        obtain ⟨verb, isVerb⟩ := isVerb
        obtain ⟨limit, isLimit⟩ := exists_limitReads (behindDistinct subject)
        obtain ⟨groups, isGroups⟩ := (@exists_predicateReads_iff style _).mpr pieces
        have ordered : ∃ orders, OrderingReads style ordering orders := by
          cases ordering with
          | none => exact ⟨[], .absent⟩
          | some words =>
              obtain ⟨nonempty, keys, reads⟩ := exists_sortReads_iff.mpr (shape words rfl)
              exact ⟨keys, .present nonempty reads⟩
        obtain ⟨orders, isOrders⟩ := ordered
        let distinct := subject.any fun word => word.key == "distinct"
        have isDistinct : distinct = true ↔ ∃ word ∈ subject, word.key = "distinct" := by
          simp [distinct]
        exact ⟨⟨verb, distinct, limit, groups, orders⟩,
          .name isVerb split isDistinct isLimit order isGroups isOrders⟩

namespace QueryName

/-- The reader accepts exactly the names whose words have the shape of a query name, and builds the
one tree that the words spell. -/
theorem parse_iff_derives {name : String}
    (short : ∀ number, LimitNumber (splitWords name) number → number.text.length ≤ 4300) :
    ((∃ tree, parse name = .ok tree) ↔ Grammatical (splitWords name)) ∧
    ∀ tree, parse name = .ok tree ↔ Derives (NameStyle.ofName name) (splitWords name) tree := by
  have spelled : ∀ word ∈ splitWords name, word.text ≠ "" := fun word =>
    text_ne_of_mem_splitWords
  have builds (tree : QueryName) :
      parse name = .ok tree ↔ Derives (NameStyle.ofName name) (splitWords name) tree :=
    (derives_iff spelled short).symm
  refine ⟨?_, builds⟩
  rw [← @exists_derives_iff (NameStyle.ofName name)]
  exact exists_congr builds

theorem parse_iff_derives_sorted :
    Grammatical (splitWords "findTop2ByTitleOrAuthorIsNullAndYearOrderByYearDescTitle") ∧
    Derives .camel (splitWords "findTop2ByTitleOrAuthorIsNullAndYearOrderByYearDescTitle")
      ⟨.find, false, some 2,
        [[⟨"title", .simpleProperty⟩], [⟨"author", .isNull⟩, ⟨"year", .simpleProperty⟩]],
        [⟨"year", .descending⟩, ⟨"title", .ascending⟩]⟩ := by
  have lengths : ∀ word ∈
      splitWords "findTop2ByTitleOrAuthorIsNullAndYearOrderByYearDescTitle",
        word.text.length ≤ 4300 := by
    decide +kernel
  have read : parse "findTop2ByTitleOrAuthorIsNullAndYearOrderByYearDescTitle" =
      .ok ⟨.find, false, some 2,
        [[⟨"title", .simpleProperty⟩], [⟨"author", .isNull⟩, ⟨"year", .simpleProperty⟩]],
        [⟨"year", .descending⟩, ⟨"title", .ascending⟩]⟩ := by
    decide +kernel
  obtain ⟨accepts, builds⟩ := parse_iff_derives fun number limit => lengths number limit.mem
  exact ⟨accepts.mp ⟨_, read⟩, (builds _).mp read⟩

end QueryName

end DerivedQuery
