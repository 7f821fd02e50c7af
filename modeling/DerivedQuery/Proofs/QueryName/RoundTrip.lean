import DerivedQuery.Proofs.QueryName.Rendering
import Mathlib.Data.List.Chain

/-!
# Reading what was rendered

All parts of a description can be written if its properties can. In camel style neighbours are told
apart because one of them is a word of the grammar; in snake style underscores tell them apart. What
is written is therefore read part by part, and reading it gives back what was described.
-/

set_option autoImplicit false

namespace DerivedQuery

namespace NameDescription

variable {description : NameDescription} {style : NameStyle}

private theorem writable_word {key : String} (listed : key ∈
    ["distinct", "first", "top", "by", "and", "or", "order", "asc", "desc"]) :
    (NamePart.word key).Writable style := by
  have all : ∀ key ∈ ["distinct", "first", "top", "by", "and", "or", "order", "asc", "desc"],
      2 ≤ key.toList.length ∧ key.toList.all Char.isLower = true := by
    decide +kernel
  exact all key listed

private theorem writable_keyword {key : String} (keyword : Keyword) (member : key ∈ keyword.words) :
    (NamePart.word key).Writable style := by
  have all : ∀ entry ∈ Operator.keywordTable, ∀ key ∈ entry.1,
      2 ≤ key.toList.length ∧ key.toList.all Char.isLower = true := by
    decide +kernel
  have listed := Operator.mem_keywordTable.mpr keyword.listed
  exact all (keyword.words, keyword.operator) listed key member

theorem Renderable.writable_property (renderable : description.Renderable style) {name : String}
    (member : name ∈ description.properties) : (NamePart.property name).Writable style :=
  ⟨renderable.forms name member, renderable.plain name member⟩

private theorem writable_limitParts {limit : Option (LimitWord × Option Nat)} :
    ∀ part ∈ limitParts limit, part.Writable style := by
  have opener (word : LimitWord) : (NamePart.word word.key).Writable style := by
    cases word <;> exact writable_word (by decide)
  match limit with
  | none => simp [limitParts]
  | some (word, none) => simpa [limitParts] using opener word
  | some (word, some n) => simpa [limitParts] using ⟨opener word, trivial⟩

theorem Renderable.writable_predicateParts (renderable : description.Renderable style) :
    ∀ part ∈ description.predicateParts, part.Writable style := by
  intro part member
  rcases mem_of_mem_intercalate member with rfl | ⟨parts, inside, member⟩
  · exact writable_word (by decide)
  obtain ⟨group, inGroups, rfl⟩ := List.mem_map.mp inside
  rcases mem_of_mem_intercalate member with rfl | ⟨parts, inside, member⟩
  · exact writable_word (by decide)
  obtain ⟨clause, inGroup, rfl⟩ := List.mem_map.mp inside
  rcases List.mem_cons.mp member with rfl | inKeyword
  · refine renderable.writable_property ?_
    simp only [properties, List.mem_append, List.mem_flatMap]
    exact .inl (.inl ⟨group, inGroups, List.mem_map_of_mem inGroup⟩)
  · cases isKeyword : clause.keyword with
    | none => simp [isKeyword] at inKeyword
    | some keyword =>
        rw [isKeyword] at inKeyword
        obtain ⟨key, inWords, rfl⟩ := List.mem_map.mp inKeyword
        exact writable_keyword keyword inWords

theorem Renderable.writable_entryParts (renderable : description.Renderable style) :
    ∀ part ∈ description.entryParts, part.Writable style := by
  intro part member
  rcases List.mem_append.mp member with inDirected | inLast
  · obtain ⟨⟨property, direction⟩, isEntry, inside⟩ := List.mem_flatMap.mp inDirected
    rcases List.mem_pair.mp inside with rfl | rfl
    · refine renderable.writable_property ?_
      simp only [properties, List.mem_append]
      exact .inl (.inr (List.mem_map.mpr ⟨_, isEntry, rfl⟩))
    · refine writable_word ?_
      cases direction <;> simp [Direction.key]
  · obtain ⟨property, isLast, rfl⟩ := List.mem_map.mp inLast
    refine renderable.writable_property ?_
    simp only [properties, List.mem_append]
    exact .inr isLast

theorem Renderable.writable (renderable : description.Renderable style) :
    ∀ part ∈ description.parts, part.Writable style := by
  intro part member
  simp only [parts, subjectParts, List.mem_append, List.mem_cons] at member
  rcases member with (isDistinct | inLimit) | rfl | inPredicate | inOrder
  · split at isDistinct
    · rw [List.mem_singleton.mp isDistinct]
      exact writable_word (by decide)
    · exact nomatch isDistinct
  · exact writable_limitParts part inLimit
  · exact writable_word (by decide)
  · exact renderable.writable_predicateParts part inPredicate
  · unfold orderParts at inOrder
    split at inOrder
    · exact nomatch inOrder
    · rcases List.mem_cons.mp inOrder with rfl | inOrder
      · exact writable_word (by decide)
      rcases List.mem_cons.mp inOrder with rfl | inEntries
      · exact writable_word (by decide)
      · exact renderable.writable_entryParts part inEntries

end NameDescription

/-! ## Camel style -/

def NamePart.IsWord (part : NamePart) : Prop := ∃ key, part = .word key

/-- Of two neighbours one is a word of the grammar. -/
def Apart (first second : NamePart) : Prop := first.IsWord ∨ second.IsWord

theorem isChain_word_cons {key : String} {parts : List NamePart} (apart : parts.IsChain Apart) :
    (.word key :: parts).IsChain Apart :=
  List.isChain_cons.mpr ⟨fun _ _ => .inl ⟨key, rfl⟩, apart⟩

theorem isChain_append_word_cons {key : String} {front back : List NamePart}
    (apartFront : front.IsChain Apart) (apartBack : back.IsChain Apart) :
    (front ++ .word key :: back).IsChain Apart := by
  refine List.isChain_append.mpr ⟨apartFront, isChain_word_cons apartBack, ?_⟩
  intro part _ next isNext
  exact .inr ⟨key, (Option.some.inj isNext).symm⟩

theorem isChain_intercalate {key : String} {lists : List (List NamePart)}
    (apart : ∀ parts ∈ lists, parts.IsChain Apart) :
    ([NamePart.word key].intercalate lists).IsChain Apart := by
  induction lists with
  | nil => exact .nil
  | cons parts lists ih =>
      obtain ⟨here, later⟩ := List.forall_mem_cons.mp apart
      cases lists with
      | nil => simpa using here
      | cons next lists =>
          rw [List.intercalate_cons_cons, List.append_assoc, List.singleton_append]
          exact isChain_append_word_cons here (ih later)

namespace NameDescription

theorem isChain_clauseParts (description : ClauseDescription) :
    description.parts.IsChain Apart := by
  have words (keys : List String) : (keys.map NamePart.word).IsChain Apart := by
    induction keys with
    | nil => exact .nil
    | cons key keys ih => exact isChain_word_cons ih
  refine List.isChain_cons.mpr ⟨fun part isNext => ?_, words _⟩
  obtain ⟨key, -, rfl⟩ := List.mem_map.mp (List.mem_of_head? isNext)
  exact .inr ⟨key, rfl⟩

theorem isChain_entryParts (description : NameDescription) :
    description.entryParts.IsChain Apart := by
  obtain ⟨verb, distinct, limit, groups, directed, undirected⟩ := description
  induction directed with
  | nil => cases undirected <;> simp [entryParts]
  | cons entry directed ih => exact @isChain_append_word_cons _ [_] _ (.singleton _) ih

theorem isChain_parts (description : NameDescription) : description.parts.IsChain Apart := by
  have limit : (limitParts description.limit).IsChain Apart := by
    match description.limit with
    | none => exact .nil
    | some (word, none) => exact .singleton _
    | some (word, some n) => exact isChain_word_cons (.singleton _)
  have subject : description.subjectParts.IsChain Apart := by
    unfold subjectParts
    split
    · exact isChain_word_cons limit
    · exact limit
  have group (group : List ClauseDescription) : (groupParts group).IsChain Apart := by
    refine isChain_intercalate fun parts member => ?_
    obtain ⟨clause, -, rfl⟩ := List.mem_map.mp member
    exact isChain_clauseParts clause
  have predicate : description.predicateParts.IsChain Apart := by
    refine isChain_intercalate fun parts member => ?_
    obtain ⟨clauses, -, rfl⟩ := List.mem_map.mp member
    exact group clauses
  refine isChain_append_word_cons subject ?_
  unfold orderParts
  split
  · rwa [List.append_nil]
  · rename_i entries _
    exact isChain_append_word_cons predicate (isChain_word_cons description.isChain_entryParts)

end NameDescription

theorem camel_startsSmall {part : NamePart} (writable : part.Writable .camel) (tail : List Char) :
    startsSmall ((part.text .camel).toList ++ tail) = false := by
  cases part with
  | word key =>
      obtain ⟨c, d, rest, text, upper, -⟩ := camel_toList_word writable
      rw [text]
      exact not_isLower_of_isUpper upper
  | number n =>
      obtain ⟨c, rest, digits⟩ := List.exists_cons_of_ne_nil (@Nat.toDigits_ne_nil n 10)
      rw [toList_text_number, digits]
      exact (not_isAlpha_of_isDigit (toDigits_isDigit n c (digits ▸ List.mem_cons_self))).2
  | property name =>
      obtain ⟨c, rest, text, upper, -⟩ := camel_toList_property writable.1
      rw [text]
      exact not_isLower_of_isUpper upper

/-- In camel style a word ends between neighbours of which one is a word of the grammar. -/
theorem camel_breaks {first second : NamePart} (apart : Apart first second)
    (writable : first.Writable .camel) (writableNext : second.Writable .camel) (tail : List Char) :
    Breaks (first.text .camel).toList ((second.text .camel).toList ++ tail) := by
  rcases apart with ⟨key, rfl⟩ | ⟨key, rfl⟩
  · obtain ⟨c, d, rest, text, -, lower, -⟩ := camel_toList_word writable
    refine .after_small (fun e isLast => lower e ?_) (camel_startsSmall writableNext tail)
    rw [text, List.getLast?_cons_cons] at isLast
    exact List.mem_of_getLast? isLast
  · obtain ⟨c, d, rest, text, upper, lower, -⟩ := camel_toList_word writableNext
    rw [text]
    exact .before_capitalized upper (lower d List.mem_cons_self)

/-- In camel style the words of parts side by side spell them. -/
theorem camel_spells {parts : List NamePart} (apart : parts.IsChain Apart)
    (writable : ∀ part ∈ parts, part.Writable .camel) :
    Spells .camel parts (camelWords (parts.flatMap fun part => (part.text .camel).toList)) := by
  induction parts with
  | nil => exact .nil
  | cons part parts ih =>
      obtain ⟨here, later⟩ := List.forall_mem_cons.mp writable
      obtain ⟨apartHere, apartLater⟩ := List.isChain_cons.mp apart
      have breaks : Breaks (part.text .camel).toList
          (parts.flatMap fun part => (part.text .camel).toList) := by
        cases parts with
        | nil => exact .nil _
        | cons next parts =>
            exact camel_breaks (apartHere next rfl) here (later next List.mem_cons_self) _
      rw [List.flatMap_cons, camelWords_append breaks]
      exact .cons (camel_partSpells here) (ih apartLater later)

/-! ## Snake style -/

theorem snake_spells {parts : List NamePart} (writable : ∀ part ∈ parts, part.Writable .snake) :
    Spells .snake parts (wordsOfPieces true
      (parts.flatMap fun part => splitWhen (· == '_') (part.text .snake).toList)) := by
  induction parts with
  | nil => exact .nil
  | cons part parts ih =>
      obtain ⟨here, later⟩ := List.forall_mem_cons.mp writable
      rw [List.flatMap_cons, wordsOfPieces_append]
      exact .cons (snake_partSpells here) (ih later)

/-! ## Both styles -/

theorem Verb.key_small (verb : Verb) :
    verb.key.toList ≠ [] ∧ ∀ c ∈ verb.key.toList, c.isLower = true := by
  rw [← List.all_eq_true]
  cases verb <;> decide +kernel

theorem camel_isAlphanum {part : NamePart} (writable : part.Writable .camel) :
    ∀ c ∈ (part.text .camel).toList, c.isAlphanum = true := by
  cases part with
  | word key =>
      obtain ⟨c, d, rest, text, upper, lower, -⟩ := camel_toList_word writable
      rw [text]
      exact List.forall_mem_cons.mpr
        ⟨isAlphanum_of_isUpper upper, fun e member => isAlphanum_of_isLower (lower e member)⟩
  | number n =>
      intro c member
      rw [toList_text_number] at member
      exact isAlphanum_of_isDigit (toDigits_isDigit n c member)
  | property name =>
      obtain ⟨c, rest, text, upper, alphanum, -⟩ := camel_toList_property writable.1
      rw [text]
      exact List.forall_mem_cons.mpr ⟨isAlphanum_of_isUpper upper, alphanum⟩

namespace NameDescription

variable {description : NameDescription} {style : NameStyle}

theorem Renderable.camel_words (renderable : description.Renderable .camel) :
    NameStyle.ofName (description.render .camel) = .camel ∧
      ∃ words, camelWords (description.render .camel).toList = ⟨description.verb.key, ""⟩ :: words ∧
        Spells .camel description.parts words := by
  obtain ⟨nonempty, lower⟩ := description.verb.key_small
  have chars : (description.render .camel).toList = description.verb.key.toList ++
      description.parts.flatMap fun part => (part.text .camel).toList := by
    simp [render, String.toList_join, List.flatMap_map]
  have starts : startsSmall
      (description.parts.flatMap fun part => (part.text .camel).toList) = false := by
    cases parts : description.parts with
    | nil => rfl
    | cons part parts' =>
        exact camel_startsSmall (renderable.writable part (parts ▸ List.mem_cons_self)) _
  refine ⟨ofChars_eq_camel fun c member => ?_, _, ?_,
    camel_spells description.isChain_parts renderable.writable⟩
  · rw [chars] at member
    rcases List.mem_append.mp member with inVerb | inParts
    · exact isAlphanum_of_isLower (lower c inVerb)
    · obtain ⟨part, inside, member⟩ := List.mem_flatMap.mp inParts
      exact camel_isAlphanum (renderable.writable part inside) c member
  · rw [chars, camelWords_append (.after_small (fun c isLast => lower c
      (List.mem_of_getLast? isLast)) starts), camelWords_small nonempty lower, String.ofList_toList]
    rfl

theorem Renderable.snake_words (renderable : description.Renderable .snake) :
    NameStyle.ofName (description.render .snake) = .snake ∧
      ∃ words, snakeWords (description.render .snake).toList = ⟨description.verb.key, ""⟩ :: words ∧
        Spells .snake description.parts words := by
  obtain ⟨nonempty, lower⟩ := description.verb.key_small
  have alphanum : ∀ c ∈ description.verb.key.toList, c.isAlphanum = true := fun c member =>
    isAlphanum_of_isLower (lower c member)
  have letters : ∀ c ∈ description.verb.key.toList, c.isAlpha = true := fun c member =>
    isAlpha_of_isLower (lower c member)
  let texts := description.parts.map fun part => (part.text .snake).toList
  have byInside : "by".toList ∈ texts :=
    List.mem_map.mpr ⟨.word "by", by simp [parts], rfl⟩
  have chars : (description.render .snake).toList =
      ['_'].intercalate (description.verb.key.toList :: texts) := by
    simp [render, String.toList_intercalate, texts, Function.comp_def]
  have charsBehind : (description.render .snake).toList =
      description.verb.key.toList ++ '_' :: ['_'].intercalate texts := by
    rw [chars, List.intercalate_cons_of_ne_nil (List.ne_nil_of_mem byInside)]
    simp
  refine ⟨?_, _, ?_, snake_spells renderable.writable⟩
  · obtain ⟨c, inVerb⟩ := List.exists_mem_of_ne_nil _ nonempty
    rw [NameStyle.ofName, charsBehind]
    refine ofChars_eq_snake ⟨c, inVerb, ne_underscore (alphanum c inVerb)⟩ ⟨'b', ?_, by decide⟩
    exact mem_intercalate byInside (by decide)
  · rw [chars, snakeWords, splitWhen_intercalate (by simp) (List.cons_ne_nil _ _),
      List.flatMap_cons, splitWhen_alphanum alphanum, List.singleton_append, wordsOfPieces,
      scan_letters nonempty letters]
    dsimp only
    rw [String.ofList_toList, List.flatMap_map]
    rfl

/-- The words of what was written are the verb and words that spell the parts. -/
theorem Renderable.splitWords_render (renderable : description.Renderable style) :
    NameStyle.ofName (description.render style) = style ∧
      ∃ words, splitWords (description.render style) = ⟨description.verb.key, ""⟩ :: words ∧
        Spells style description.parts words := by
  cases style with
  | camel =>
      obtain ⟨styled, split⟩ := renderable.camel_words
      refine ⟨styled, ?_⟩
      rwa [splitWords, styled]
  | snake =>
      obtain ⟨styled, split⟩ := renderable.snake_words
      refine ⟨styled, ?_⟩
      rwa [splitWords, styled]

/-- Reading what was written gives back what was described. -/
theorem parse_render (description : NameDescription) (style : NameStyle)
    (renderable : description.Renderable style) :
    QueryName.parse (description.render style) = .ok description.tree := by
  obtain ⟨styled, words, split, spells⟩ := renderable.splitWords_render
  have isVerb : Word.key ⟨description.verb.key, ""⟩ = description.verb.key := by
    have key := key_of_small description.verb.key_small.2 ""
    rwa [String.ofList_toList] at key
  obtain ⟨reads, numbers⟩ := derives renderable.groups isVerb spells
  rw [← split] at reads numbers
  have spelled : ∀ word ∈ splitWords (description.render style), word.text ≠ "" := fun word =>
    text_ne_of_mem_splitWords
  have short : ∀ number, LimitNumber (splitWords (description.render style)) number →
      number.text.length ≤ 4300 := fun number isNumber => by
    obtain ⟨opener, n, limit, text⟩ := numbers number isNumber
    rw [text]
    exact renderable.digits opener n limit
  rw [QueryName.parse, styled]
  exact (derives_iff spelled short).mp reads

theorem parse_render_shelf :
    let tree : QueryName := ⟨.find, true, some 12,
      [[⟨"title", .simpleProperty⟩, ⟨"authorName", .isNotNull⟩], [⟨"year2", .simpleProperty⟩]],
      [⟨"year2", .descending⟩, ⟨"title", .ascending⟩]⟩
    QueryName.parse
      "findDistinctTop12ByTitleAndAuthorNameIsNotNullOrYear2OrderByYear2DescTitle" = .ok tree ∧
    QueryName.parse
      "find_distinct_top_12_by_title_and_authorName_is_not_null_or_year2_order_by_year2_desc_title" =
        .ok tree := by
  let description : NameDescription := ⟨.find, true, some (.top, some 12),
    [[⟨"title", none⟩, ⟨"authorName", some ⟨.isNotNull, ["is", "not", "null"], by decide⟩⟩],
      [⟨"year2", none⟩]], [("year2", .descending)], some "title"⟩
  have renderable (style : NameStyle) : description.Renderable style := by
    refine ⟨by simp [description], fun opener n limit => ?_, ?_, ?_⟩
    · obtain ⟨-, rfl⟩ : LimitWord.top = opener ∧ 12 = n := by simpa [description] using limit
      decide +kernel
    · cases style <;> decide +kernel
    · cases style <;> decide +kernel
  have camelText : description.render .camel =
      "findDistinctTop12ByTitleAndAuthorNameIsNotNullOrYear2OrderByYear2DescTitle" := by
    decide +kernel
  have snakeText : description.render .snake =
      "find_distinct_top_12_by_title_and_authorName_is_not_null_or_year2_order_by_year2_desc_title" := by
    decide +kernel
  constructor
  · rw [← camelText]
    exact parse_render description .camel (renderable .camel)
  · rw [← snakeText]
    exact parse_render description .snake (renderable .snake)

end NameDescription

end DerivedQuery
