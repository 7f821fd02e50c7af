import DerivedQuery.Proofs.Name.Property
import DerivedQuery.Proofs.QueryName.Grammar

/-!
# Descriptions of queries

A description says what a query name is to say, with the keywords that it is to be written with. It
is laid out in parts: words of the grammar, numbers and properties. Words that spell these parts are
a query name that says what was described, if no word of a property is one of the grammar.
-/

set_option autoImplicit false

namespace DerivedQuery

/-- A keyword of an operator. -/
structure Keyword where
  operator : Operator
  words : List String
  listed : words ∈ operator.keywords

/-- A clause with the keyword of its operator, or without one. -/
structure ClauseDescription where
  property : String
  keyword : Option Keyword

inductive LimitWord where
  | first
  | top

def LimitWord.key : LimitWord → String
  | .first => "first"
  | .top => "top"

def Direction.key : Direction → String
  | .ascending => "asc"
  | .descending => "desc"

/-- What a query name is to say. The limit may be written without a number, and a last entry to sort
by without a direction. -/
structure NameDescription where
  verb : Verb
  distinct : Bool
  limit : Option (LimitWord × Option Nat)
  groups : List (List ClauseDescription)
  directed : List (String × Direction)
  undirected : Option String

inductive NamePart where
  | word (key : String)
  | number (n : Nat)
  | property (name : String)

/-- The word belongs to the grammar. -/
def Reserved (key : String) : Prop :=
  key ∈ ["and", "or", "order", "by", "asc", "desc"] ∨
    ∃ operator : Operator, ∃ keyword ∈ operator.keywords, key ∈ keyword

theorem reserved_iff {key : String} : Reserved key ↔
    key ∈ ["and", "or", "order", "by", "asc", "desc"] ∨
      ∃ entry ∈ Operator.keywordTable, key ∈ entry.1 := by
  refine or_congr_right ⟨?_, ?_⟩
  · rintro ⟨operator, keyword, listed, member⟩
    exact ⟨(keyword, operator), Operator.mem_keywordTable.mpr listed, member⟩
  · rintro ⟨⟨keyword, operator⟩, listed, member⟩
    exact ⟨operator, keyword, Operator.mem_keywordTable.mp listed, member⟩

instance (key : String) : Decidable (Reserved key) := decidable_of_iff' _ reserved_iff

namespace ClauseDescription

/-- What is described. -/
def clause (description : ClauseDescription) : Clause :=
  ⟨description.property, description.keyword.elim .simpleProperty Keyword.operator⟩

def parts (description : ClauseDescription) : List NamePart :=
  .property description.property ::
    (description.keyword.elim [] Keyword.words).map .word

end ClauseDescription

namespace NameDescription

/-- What is described. A limit without a number is one. -/
def tree (description : NameDescription) : QueryName where
  verb := description.verb
  distinct := description.distinct
  limit := description.limit.map fun limit => limit.2.getD 1
  groups := description.groups.map fun group => group.map ClauseDescription.clause
  orders := description.directed.map (fun entry => ⟨entry.1, entry.2⟩) ++
    description.undirected.toList.map fun property => ⟨property, .ascending⟩

def limitParts : Option (LimitWord × Option Nat) → List NamePart
  | none => []
  | some (word, none) => [.word word.key]
  | some (word, some n) => [.word word.key, .number n]

def subjectParts (description : NameDescription) : List NamePart :=
  (if description.distinct then [.word "distinct"] else []) ++ limitParts description.limit

def groupParts (group : List ClauseDescription) : List NamePart :=
  [NamePart.word "and"].intercalate (group.map ClauseDescription.parts)

def predicateParts (description : NameDescription) : List NamePart :=
  [NamePart.word "or"].intercalate (description.groups.map groupParts)

def entryParts (description : NameDescription) : List NamePart :=
  (description.directed.flatMap fun entry => [.property entry.1, .word entry.2.key]) ++
    description.undirected.toList.map .property

def orderParts (description : NameDescription) : List NamePart :=
  match description.entryParts with
  | [] => []
  | entries => .word "order" :: .word "by" :: entries

/-- The parts behind the verb. -/
def parts (description : NameDescription) : List NamePart :=
  description.subjectParts ++ .word "by" :: (description.predicateParts ++ description.orderParts)

end NameDescription

/-- The words spell a part. No word of a property belongs to the grammar. -/
inductive PartSpells (style : NameStyle) : NamePart → List Word → Prop where
  | word {key word} : word.key = key → PartSpells style (.word key) [word]
  | number {n word} :
      word.text = String.ofList (Nat.toDigits 10 n) → PartSpells style (.number n) [word]
  | property {name words} :
      words ≠ [] → joinProperty style words = name → (∀ word ∈ words, ¬ Reserved word.key) →
      PartSpells style (.property name) words

/-- The words spell all parts, one after the other. -/
inductive Spells (style : NameStyle) : List NamePart → List Word → Prop where
  | nil : Spells style [] []
  | cons {part parts words rest} :
      PartSpells style part words → Spells style parts rest →
      Spells style (part :: parts) (words ++ rest)

section

variable {style : NameStyle} {parts others : List NamePart} {words : List Word}

theorem spells_append : Spells style (parts ++ others) words ↔
    ∃ front back, words = front ++ back ∧ Spells style parts front ∧ Spells style others back := by
  constructor
  · intro spells
    induction parts generalizing words with
    | nil => exact ⟨[], words, rfl, .nil, spells⟩
    | cons part parts ih =>
        cases spells with
        | @cons _ _ first rest here later =>
            obtain ⟨front, back, rfl, front_spells, back_spells⟩ := ih later
            exact ⟨first ++ front, back, by simp, .cons here front_spells, back_spells⟩
  · rintro ⟨front, back, rfl, front_spells, back_spells⟩
    induction front_spells with
    | nil => exact back_spells
    | cons here _ ih => exact List.append_assoc _ _ _ ▸ .cons here ih

theorem spells_word_cons {key : String} : Spells style (.word key :: parts) words ↔
    ∃ word rest, words = word :: rest ∧ word.key = key ∧ Spells style parts rest := by
  constructor
  · intro spells
    cases spells with
    | cons here later =>
        cases here with
        | word isKey => exact ⟨_, _, rfl, isKey, later⟩
  · rintro ⟨word, rest, rfl, isKey, later⟩
    exact .cons (.word isKey) later

theorem Spells.keys {keys : List String} (spells : Spells style (keys.map .word) words) :
    words.map Word.key = keys := by
  induction keys generalizing words with
  | nil =>
      cases spells
      rfl
  | cons key keys ih =>
      obtain ⟨word, rest, rfl, isKey, later⟩ := spells_word_cons.mp spells
      rw [List.map_cons, isKey, ih later]

theorem key_of_digits {word : Word} {cs : List Char} (digits : ∀ c ∈ cs, c.isDigit = true)
    (text : word.text = String.ofList cs) : word.key = String.ofList cs := by
  have ascii : ∀ c ∈ cs, IsAscii c := fun c member => isAscii_of_isDigit (digits c member)
  have small : ∀ c ∈ cs, c.toLower = c := fun c member => (case_of_isDigit (digits c member)).2
  rw [Word.key, text, Text.lower_of_isAscii ascii, List.map_congr_left small, List.map_id']

theorem key_ne_of_digits {word : Word} {n : Nat} {key : String}
    (text : word.text = String.ofList (Nat.toDigits 10 n))
    (letters : key.toList.all Char.isDigit = false) : word.key ≠ key := by
  intro same
  rw [← same, key_of_digits (toDigits_isDigit n) text, String.toList_ofList,
    List.all_eq_true.mpr (toDigits_isDigit n)] at letters
  exact nomatch letters

theorem isNumber_of_digits {word : Word} {n : Nat}
    (text : word.text = String.ofList (Nat.toDigits 10 n)) :
    word.IsNumber ∧ Text.digitsValue word.text.toList = n := by
  rw [Word.IsNumber, text, String.toList_ofList, Text.digitsValue_toDigits]
  refine ⟨⟨ofList_ne_empty Nat.toDigits_ne_nil, fun c member => ?_⟩, rfl⟩
  have digit := toDigits_isDigit n c member
  rwa [Text.isDigit_of_isAscii (isAscii_of_isDigit digit)]

/-- A word of the grammar is spelled by its own part only. -/
theorem Spells.key_ne {key : String} (spells : Spells style parts words) (reserved : Reserved key)
    (letters : key.toList.all Char.isDigit = false) (absent : .word key ∉ parts) :
    ∀ word ∈ words, word.key ≠ key := by
  induction spells with
  | nil => simp
  | cons here _ ih =>
      simp only [List.mem_cons, not_or] at absent
      refine List.forall_mem_append.mpr ⟨?_, ih absent.2⟩
      cases here with
      | word isKey =>
          refine List.forall_mem_singleton.mpr fun same => absent.1 ?_
          rw [← same, isKey]
      | number text => exact List.forall_mem_singleton.mpr (key_ne_of_digits text letters)
      | property _ _ plain =>
          exact fun word member same => plain word member (same ▸ reserved)

end

theorem Operator.plain_of_mem_keywords {operator : Operator} {keyword : List String}
    (listed : keyword ∈ operator.keywords) :
    keyword ≠ [] ∧ ∀ key ∈ keyword, key ∉ ["and", "or", "order", "by", "asc", "desc"] := by
  have all : ∀ entry ∈ keywordTable, entry.1 ≠ [] ∧
      ∀ key ∈ entry.1, key ∉ ["and", "or", "order", "by", "asc", "desc"] := by
    decide +kernel
  exact all (keyword, operator) (mem_keywordTable.mpr listed)

section

variable {style : NameStyle} {words : List Word}

theorem ClauseDescription.reads (description : ClauseDescription)
    (spells : Spells style description.parts words) :
    ClauseReads style words description.clause := by
  obtain ⟨name, keyword⟩ := description
  cases spells with
  | @cons _ _ spelled rest here later =>
      cases here with
      | property nonempty joined plain =>
          have notListed (back : List Word) (operator : Operator) (word : Word)
              (inBack : word ∈ back) (inProperty : word ∈ spelled) :
              back.map Word.key ∉ operator.keywords := fun listed =>
            plain word inProperty (.inr ⟨operator, _, listed, List.mem_map_of_mem inBack⟩)
          cases keyword with
          | none =>
              cases later
              rw [List.append_nil]
              subst joined
              refine .equality nonempty fun front back operator _ same listed => ?_
              obtain ⟨word, inBack⟩ := List.exists_mem_of_ne_nil back fun empty =>
                (Operator.plain_of_mem_keywords listed).1 (by rw [empty]; rfl)
              exact notListed back operator word inBack (same ▸ List.mem_append_right _ inBack)
                listed
          | some keyword =>
              have keys := later.keys
              subst joined
              refine .keyword nonempty (keys ▸ keyword.listed)
                fun front back operator _ same listed => ?_
              by_contra longer
              rcases List.append_eq_append_iff.mp same with
                ⟨between, rfl, split⟩ | ⟨between, rfl, split⟩
              · rw [split, List.length_append] at longer
                omega
              · cases between with
                | nil =>
                    rw [split] at longer
                    simp at longer
                | cons word between =>
                    exact notListed back operator word (by simp [split]) (by simp) listed

theorem Spells.ne_nil {parts : List NamePart} (spells : Spells style parts words)
    (nonempty : parts ≠ []) : words ≠ [] := by
  cases spells with
  | nil => exact absurd rfl nonempty
  | cons here =>
      cases here with
      | word => exact List.cons_ne_nil _ _
      | number => exact List.cons_ne_nil _ _
      | property spelled => simp [spelled]

theorem mem_of_mem_intercalate {α : Type} {separator x : α} {lists : List (List α)}
    (member : x ∈ [separator].intercalate lists) : x = separator ∨ ∃ list ∈ lists, x ∈ list := by
  match lists with
  | [] => simp at member
  | [list] => exact .inr ⟨list, by simp, by simpa using member⟩
  | first :: second :: rest =>
      rw [List.intercalate_cons_cons, List.append_assoc, List.mem_append, List.mem_append] at member
      rcases member with inFirst | isSeparator | later
      · exact .inr ⟨first, by simp, inFirst⟩
      · exact .inl (List.mem_singleton.mp isSeparator)
      · exact (mem_of_mem_intercalate later).imp_right fun ⟨list, inside, holds⟩ =>
          ⟨list, by simp [inside], holds⟩

theorem mem_intercalate {α : Type} {separator list : List α} {lists : List (List α)}
    (inside : list ∈ lists) {x : α} (member : x ∈ list) : x ∈ separator.intercalate lists := by
  induction lists with
  | nil => exact nomatch inside
  | cons first lists ih =>
      cases lists with
      | nil => simpa [← List.mem_singleton.mp inside] using member
      | cons second lists =>
          rw [List.intercalate_cons_cons, List.append_assoc, List.mem_append, List.mem_append]
          rcases List.mem_cons.mp inside with rfl | inside
          · exact .inl member
          · exact .inr (.inr (ih inside))

/-- Items written with separators between them are read from the parts between the separators. -/
theorem separated_of_spells {ι β : Type} {separator : String} {partsOf : ι → List NamePart}
    {item : List Word → β → Prop} {result : ι → β} {items : List ι} (nonempty : items ≠ [])
    (each : ∀ i ∈ items, ∀ words, Spells style (partsOf i) words →
      (∀ word ∈ words, word.key ≠ separator) ∧ item words (result i))
    (spells : Spells style ([NamePart.word separator].intercalate (items.map partsOf)) words) :
    Separated (fun word => word.key == separator) item words (items.map result) := by
  induction items generalizing words with
  | nil => exact absurd rfl nonempty
  | cons i items ih =>
      cases items with
      | nil =>
          obtain ⟨plain, reads⟩ := each i (by simp) words (by simpa using spells)
          exact .last (by simpa using plain) reads
      | cons j items =>
          rw [List.map_cons, List.map_cons, List.intercalate_cons_cons, List.append_assoc,
            List.singleton_append] at spells
          obtain ⟨front, back, rfl, here, later⟩ := spells_append.mp spells
          obtain ⟨word, rest, rfl, isSeparator, later⟩ := spells_word_cons.mp later
          obtain ⟨plain, reads⟩ := each i (by simp) front here
          refine .more (by simpa using plain) (by simpa using isSeparator) reads ?_
          exact ih (by simp) (fun k member => each k (by simp [member])) later

namespace NameDescription

theorem word_not_mem_clauseParts {key : String}
    (grammar : key ∈ ["and", "or", "order", "by", "asc", "desc"])
    (description : ClauseDescription) : .word key ∉ description.parts := by
  obtain ⟨name, keyword⟩ := description
  intro member
  cases keyword with
  | none => simp [ClauseDescription.parts] at member
  | some keyword =>
      have inKeyword : key ∈ keyword.words := by simpa [ClauseDescription.parts] using member
      exact (Operator.plain_of_mem_keywords keyword.listed).2 key inKeyword grammar

theorem word_not_mem_groupParts {key : String}
    (grammar : key ∈ ["and", "or", "order", "by", "asc", "desc"]) (other : key ≠ "and")
    (group : List ClauseDescription) : .word key ∉ groupParts group := by
  intro member
  rcases mem_of_mem_intercalate member with same | ⟨parts, inside, member⟩
  · exact other (NamePart.word.inj same)
  · obtain ⟨description, -, rfl⟩ := List.mem_map.mp inside
    exact word_not_mem_clauseParts grammar description member

theorem order_not_mem_predicateParts (description : NameDescription) :
    .word "order" ∉ description.predicateParts := by
  intro member
  rcases mem_of_mem_intercalate member with same | ⟨parts, inside, member⟩
  · exact absurd (NamePart.word.inj same) (by decide)
  · obtain ⟨group, -, rfl⟩ := List.mem_map.mp inside
    exact word_not_mem_groupParts (by decide) (by decide) group member

theorem order_not_mem_entryParts (description : NameDescription) :
    .word "order" ∉ description.entryParts := by
  intro member
  rcases List.mem_append.mp member with inDirected | inLast
  · obtain ⟨⟨property, direction⟩, -, inside⟩ := List.mem_flatMap.mp inDirected
    cases direction <;> simp [Direction.key] at inside
  · simp at inLast

theorem predicate_reads {description : NameDescription}
    (nonempty : ∀ group ∈ description.groups, group ≠ [])
    (spells : Spells style description.predicateParts words) :
    PredicateReads style words description.tree.groups := by
  cases groups : description.groups with
  | nil =>
      rw [predicateParts, groups] at spells
      cases spells
      rw [tree, groups]
      exact .absent
  | cons group others =>
      have clauseReads (description : ClauseDescription) (words : List Word)
          (spells : Spells style description.parts words) :
          (∀ word ∈ words, word.key ≠ "and") ∧ ClauseReads style words description.clause :=
        ⟨spells.key_ne (.inl (by decide)) (by decide)
          (word_not_mem_clauseParts (by decide) description), description.reads spells⟩
      have groupReads (group : List ClauseDescription) (some : group ≠ []) (words : List Word)
          (spells : Spells style (groupParts group) words) :
          (∀ word ∈ words, word.key ≠ "or") ∧
            Separated (fun word => word.key == "and") (ClauseReads style) words
              (group.map ClauseDescription.clause) :=
        ⟨spells.key_ne (.inl (by decide)) (by decide)
          (word_not_mem_groupParts (by decide) (by decide) group),
          separated_of_spells some (fun clause _ => clauseReads clause) spells⟩
      have reads : Separated (fun word => word.key == "or")
          (Separated (fun word => word.key == "and") (ClauseReads style)) words
          (description.groups.map fun group => group.map ClauseDescription.clause) :=
        separated_of_spells (by simp [groups]) (fun group member =>
          groupReads group (nonempty group member)) spells
      refine .present (fun empty => ?_) reads
      rw [empty, groups] at reads
      have readsGroup := separated_iff.mp reads
      obtain ⟨_, _, first, -, -⟩ := List.forall₂_cons_left_iff.mp readsGroup
      obtain ⟨clause, _, firstClause, -, -⟩ :=
        List.forall₂_cons_left_iff.mp (separated_iff.mp first)
      exact exists_clauseReads_iff.mp ⟨clause, firstClause⟩ rfl

theorem entries_read {description : NameDescription}
    (spells : Spells style description.entryParts words) :
    SortReads style words description.tree.orders := by
  obtain ⟨verb, distinct, limit, groups, directed, undirected⟩ := description
  have plain {spelled : List Word} (unreserved : ∀ word ∈ spelled, ¬ Reserved word.key) :
      ∀ word ∈ spelled, Direction.ofKey? word.key = none := fun word member => by
    refine Direction.ofKey?_eq_none.mpr fun isDirection => unreserved word member (.inl ?_)
    rcases isDirection with isAsc | isDesc
    · simp [isAsc]
    · simp [isDesc]
  induction directed generalizing words with
  | nil =>
      cases undirected with
      | none =>
          cases spells
          exact .nil
      | some property =>
          cases spells with
          | cons here later =>
              cases later
              cases here with
              | property nonempty joined unreserved =>
                  subst joined
                  rw [List.append_nil]
                  exact .undirected nonempty (plain unreserved)
  | cons entry directed ih =>
      obtain ⟨property, direction⟩ := entry
      cases spells with
      | cons here later =>
          obtain ⟨word, rest, rfl, isKey, later⟩ := spells_word_cons.mp later
          have directs : Direction.ofKey? word.key = some direction := by
            rw [isKey]
            cases direction <;> simp [Direction.key, Direction.ofKey?]
          cases here with
          | property nonempty joined unreserved =>
              subst joined
              exact .directed nonempty (plain unreserved) directs (ih later)

theorem limit_reads {limit : Option (LimitWord × Option Nat)}
    (spells : Spells style (limitParts limit) words) :
    LimitReads words (limit.map fun limit => limit.2.getD 1) ∧
      (∀ word ∈ words, word.key ≠ "distinct" ∧ word.key ≠ "by") ∧
      ∀ word number rest, words = word :: number :: rest →
        ∃ opener n, limit = some (opener, some n) ∧
          number.text = String.ofList (Nat.toDigits 10 n) := by
  match limit with
  | none =>
      cases spells
      exact ⟨.absent (by simp), by simp, by simp⟩
  | some (opener, number) =>
      have opens {word : Word} (isKey : word.key = opener.key) :
          word.OpensLimit ∧ word.key ≠ "distinct" ∧ word.key ≠ "by" := by
        unfold Word.OpensLimit
        rw [isKey]
        cases opener <;> simp [LimitWord.key]
      cases number with
      | none =>
          obtain ⟨word, rest, rfl, isKey, later⟩ := spells_word_cons.mp spells
          cases later
          obtain ⟨opensLimit, differs⟩ := opens isKey
          exact ⟨.one opensLimit (by simp), by simpa using differs, by simp⟩
      | some n =>
          obtain ⟨word, rest, rfl, isKey, later⟩ := spells_word_cons.mp spells
          obtain ⟨opensLimit, differs⟩ := opens isKey
          cases later with
          | cons here later =>
              cases later
              cases here with
              | @number _ number text =>
                  obtain ⟨isNumber, value⟩ := isNumber_of_digits text
                  refine ⟨?_, ?_, fun first second rest same => ?_⟩
                  · have reads := @LimitReads.number word number [] opensLimit isNumber
                    rwa [value] at reads
                  · simpa [differs] using
                      ⟨key_ne_of_digits text (by decide), key_ne_of_digits text (by decide)⟩
                  · obtain ⟨-, rfl, -⟩ : word = first ∧ number = second ∧ [] = rest := by
                      simpa using same
                    exact ⟨opener, n, rfl, text⟩

theorem subject_reads {description : NameDescription}
    (spells : Spells style description.subjectParts words) :
    (∀ word ∈ words, word.key ≠ "by") ∧
      (description.distinct = true ↔ ∃ word ∈ words, word.key = "distinct") ∧
      Spells style (limitParts description.limit) (behindDistinct words) := by
  unfold subjectParts at spells
  cases distinct : description.distinct with
  | false =>
      have limit : Spells style (limitParts description.limit) words := by
        simpa [distinct] using spells
      have differs := (limit_reads limit).2.1
      have same : behindDistinct words = words := by
        cases words with
        | nil => rfl
        | cons word words => rw [behindDistinct, if_neg (differs word (by simp)).1]
      refine ⟨fun word member => (differs word member).2, ?_, same.symm ▸ limit⟩
      simpa using fun word member => (differs word member).1
  | true =>
      rw [distinct, if_pos rfl, List.singleton_append] at spells
      obtain ⟨word, rest, rfl, isDistinct, limit⟩ := spells_word_cons.mp spells
      have differs := (limit_reads limit).2.1
      refine ⟨List.forall_mem_cons.mpr ⟨?_, fun other member => (differs other member).2⟩, ?_, ?_⟩
      · rw [isDistinct]
        decide
      · simp [isDistinct]
      · rwa [behindDistinct, if_pos isDistinct]

/-- An `OrderBy` between words without any `Order` is the only one. -/
theorem orderSplit_of_plain {before after : List Word} {first second : Word}
    (plainBefore : ∀ word ∈ before, word.key ≠ "order") (isOrder : first.key = "order")
    (isBy : second.key = "by") (plainAfter : ∀ word ∈ after, word.key ≠ "order") :
    OrderSplit (before ++ first :: second :: after) before (some after) := by
  refine .once ⟨first, second, rfl, isOrder, isBy⟩ ?_
  rintro before' after' ⟨first', second', same, isOrder', -⟩
  rcases List.append_eq_append_iff.mp same with ⟨between, rfl, split⟩ | ⟨between, rfl, split⟩
  · cases between with
    | nil => simp
    | cons word between =>
        have behind : second :: after = between ++ first' :: second' :: after' :=
          (List.cons_eq_cons.mp split).2
        have inside : first' ∈ second :: after := behind ▸ by simp
        rcases List.mem_cons.mp inside with rfl | inside
        · exact absurd (isBy.symm.trans isOrder') (by decide)
        · exact absurd isOrder' (plainAfter first' inside)
  · cases between with
    | nil => simp
    | cons word between =>
        obtain ⟨rfl, -⟩ := List.cons_eq_cons.mp split
        exact absurd isOrder' (plainBefore first' (by simp))

/-- The words that spell the parts of a description are a query name that says what is described,
with no number behind `First` or `Top` but the described one. -/
theorem derives {description : NameDescription} {verbWord : Word}
    (nonempty : ∀ group ∈ description.groups, group ≠ [])
    (verb : verbWord.key = description.verb.key) (spells : Spells style description.parts words) :
    Derives style (verbWord :: words) description.tree ∧
      ∀ number, LimitNumber (verbWord :: words) number →
        ∃ opener n, description.limit = some (opener, some n) ∧
          number.text = String.ofList (Nat.toDigits 10 n) := by
  obtain ⟨subject, rest, rfl, subjectSpells, later⟩ := spells_append.mp spells
  obtain ⟨separator, rest, rfl, isBy, later⟩ := spells_word_cons.mp later
  obtain ⟨clauses, ordering, rfl, clausesSpells, orderingSpells⟩ := spells_append.mp later
  obtain ⟨noBy, distinct, limitSpells⟩ := subject_reads subjectSpells
  obtain ⟨limit, -, number⟩ := limit_reads limitSpells
  have split : SubjectSplit (subject ++ separator :: (clauses ++ ordering)) subject
      (clauses ++ ordering) := .atBy noBy isBy
  have noOrder : ∀ word ∈ clauses, word.key ≠ "order" :=
    clausesSpells.key_ne (.inl (by decide)) (by decide) (order_not_mem_predicateParts description)
  have groups := predicate_reads nonempty clausesSpells
  refine ⟨?_, fun other isNumber => ?_⟩
  · unfold orderParts at orderingSpells
    split at orderingSpells
    · rename_i noEntries
      cases orderingSpells
      have orders : description.tree.orders = [] := by
        have none : Spells style description.entryParts [] := noEntries ▸ .nil
        exact (entries_read none).nil_iff.mpr rfl
      have reads : OrderingReads style none description.tree.orders := by
        rw [orders]
        exact .absent
      refine .name verb split distinct limit ?_ groups reads
      rw [List.append_nil]
      refine .absent fun before after => ?_
      rintro ⟨first, second, rfl, isOrder, -⟩
      exact noOrder first (by simp) isOrder
    · rename_i someEntries
      obtain ⟨orderWord, rest, rfl, isOrder, later⟩ := spells_word_cons.mp orderingSpells
      obtain ⟨byWord, entries, rfl, isBy', entriesSpells⟩ := spells_word_cons.mp later
      have noOrderInside : ∀ word ∈ entries, word.key ≠ "order" :=
        entriesSpells.key_ne (.inl (by decide)) (by decide)
          (order_not_mem_entryParts description)
      exact .name verb split distinct limit
        (orderSplit_of_plain noOrder isOrder isBy' noOrderInside) groups
        (.present (entriesSpells.ne_nil someEntries) (entries_read entriesSpells))
  · cases isNumber with
    | here again behind =>
        obtain ⟨rfl, -⟩ := subjectSplit_unique split again
        exact number _ _ _ behind

end NameDescription

end

end DerivedQuery
