import DerivedQuery.Clause
import DerivedQuery.Proofs.Name.Words
import Mathlib.Data.List.Nodup
import Mathlib.Order.Bounds.Defs

/-!
# The keyword of a clause

A clause is a property, one word at least, followed by the keyword of an operator or by nothing. Of
several keywords at its end the longest one counts; no keyword belongs to two operators. Words in
front of a clause can only give it a longer keyword.
-/

set_option autoImplicit false

namespace DerivedQuery

/-- The words spell the clause: a property with the longest keyword behind it, or without any. -/
inductive ClauseReads (style : NameStyle) : List Word → Clause → Prop where
  | keyword {property keyword : List Word} {operator : Operator} :
      property ≠ [] → keyword.map Word.key ∈ operator.keywords →
      (∀ front back, ∀ other : Operator, front ≠ [] → property ++ keyword = front ++ back →
        back.map Word.key ∈ other.keywords → back.length ≤ keyword.length) →
      ClauseReads style (property ++ keyword) ⟨joinProperty style property, operator⟩
  | equality {words : List Word} :
      words ≠ [] →
      (∀ front back, ∀ other : Operator, front ≠ [] → words = front ++ back →
        back.map Word.key ∉ other.keywords) →
      ClauseReads style words ⟨joinProperty style words, .simpleProperty⟩

namespace Operator

theorem mem_all (operator : Operator) : operator ∈ all := by
  cases operator <;> decide

theorem mem_keywordTable {keyword : List String} {operator : Operator} :
    (keyword, operator) ∈ keywordTable ↔ keyword ∈ operator.keywords := by
  simp [keywordTable, mem_all]

theorem length_mem_of_mem_keywordTable :
    ∀ entry ∈ keywordTable, entry.1.length ∈ [4, 3, 2, 1] := by
  decide +kernel

theorem mem_longestFirst {keyword : List String} {operator : Operator} :
    (keyword, operator) ∈ longestFirst ↔ keyword ∈ operator.keywords := by
  rw [← mem_keywordTable, longestFirst, List.mem_flatMap]
  constructor
  · rintro ⟨size, -, member⟩
    exact (List.mem_filter.mp member).1
  · intro member
    exact ⟨keyword.length, length_mem_of_mem_keywordTable _ member,
      List.mem_filter.mpr ⟨member, by simp⟩⟩

theorem longestFirst_pairwise :
    longestFirst.Pairwise fun first second => second.1.length ≤ first.1.length := by
  decide +kernel

theorem nodup_keywords : (keywordTable.map Prod.fst).Nodup := by
  decide +kernel

theorem keyword_unique {keyword : List String} {operator other : Operator}
    (member : keyword ∈ operator.keywords) (again : keyword ∈ other.keywords) :
    operator = other := by
  have same := List.inj_on_of_nodup_map nodup_keywords (mem_keywordTable.mpr member)
    (mem_keywordTable.mpr again) rfl
  exact congrArg Prod.snd same

/-- The keyword stands at the end of the words, behind one more word at least. -/
def EndsBehindProperty (words : List Word) (keyword : List String) : Prop :=
  ∃ front back, front ≠ [] ∧ words = front ++ back ∧ back.map Word.key = keyword

theorem endsWith_iff {words : List Word} {keyword : List String} :
    EndsBehindProperty words keyword ↔
      keyword.length < words.length && endsWith words keyword := by
  simp only [endsWith, Bool.and_eq_true, decide_eq_true_eq, beq_iff_eq]
  constructor
  · rintro ⟨front, back, nonempty, rfl, rfl⟩
    have positive := List.length_pos_iff_ne_nil.mpr nonempty
    simp only [List.length_map, List.length_append, Nat.add_sub_cancel, List.drop_left, and_true]
    omega
  · rintro ⟨shorter, -, spelled⟩
    refine ⟨words.take (words.length - keyword.length), words.drop (words.length - keyword.length),
      ?_, (List.take_append_drop _ _).symm, spelled⟩
    rw [← List.length_pos_iff_ne_nil, List.length_take]
    omega

/-- What is found first among the keywords at the end of the words is the longest of them. -/
theorem longest_of_find? {words : List Word} {entry : List String × Operator}
    (found : longestFirst.find? (fun entry =>
      entry.1.length < words.length && endsWith words entry.1) = some entry) :
    entry.1 ∈ entry.2.keywords ∧ EndsBehindProperty words entry.1 ∧
      ∀ keyword, ∀ operator : Operator, keyword ∈ operator.keywords →
        EndsBehindProperty words keyword → keyword.length ≤ entry.1.length := by
  obtain ⟨ends, earlier, later, split, none⟩ := List.find?_eq_some_iff_append.mp found
  refine ⟨mem_longestFirst.mp (List.mem_of_find?_eq_some found), endsWith_iff.mpr ends, ?_⟩
  intro keyword operator member endsToo
  have listed : (keyword, operator) ∈ earlier ++ entry :: later :=
    split ▸ mem_longestFirst.mpr member
  rcases List.mem_append.mp listed with inEarlier | inLater
  · have missed := none _ inEarlier
    rw [Bool.not_eq_true'] at missed
    exact absurd (endsWith_iff.mp endsToo) (Bool.not_eq_true _ ▸ missed)
  · have ordered : (entry :: later).Pairwise fun first second =>
        second.1.length ≤ first.1.length :=
      (split ▸ longestFirst_pairwise).sublist (List.sublist_append_right earlier _)
    rcases List.mem_cons.mp inLater with rfl | inLater
    · exact Nat.le_refl _
    · exact (List.pairwise_cons.mp ordered).1 _ inLater

/-- The last words name the longest keyword behind a property, or there is none. -/
theorem ofWords_spec (words : List Word) :
    (∃ (operator : Operator) (property keyword : List Word), property ≠ [] ∧
      words = property ++ keyword ∧ keyword.map Word.key ∈ operator.keywords ∧
      (∀ front back, ∀ other : Operator, front ≠ [] → words = front ++ back →
        back.map Word.key ∈ other.keywords → back.length ≤ keyword.length) ∧
      ofWords words = (operator, keyword.length)) ∨
    ((∀ front back, ∀ other : Operator, front ≠ [] → words = front ++ back →
      back.map Word.key ∉ other.keywords) ∧ ofWords words = (.simpleProperty, 0)) := by
  unfold ofWords
  split
  · rename_i entry found
    obtain ⟨isKeyword, ⟨property, keyword, nonempty, same, keys⟩, longest⟩ :=
      longest_of_find? found
    have length : entry.1.length = keyword.length := by rw [← keys, List.length_map]
    refine .inl ⟨entry.2, property, keyword, nonempty, same, keys ▸ isKeyword, ?_, by rw [length]⟩
    intro front back other nonempty' same' member
    have shorter := longest _ other member ⟨front, back, nonempty', same', rfl⟩
    rwa [List.length_map, length] at shorter
  · rename_i none
    refine .inr ⟨fun front back other nonempty same member => ?_, rfl⟩
    have missed := List.find?_eq_none.mp none _ (mem_longestFirst.mpr member)
    exact missed (endsWith_iff.mp ⟨front, back, nonempty, same, rfl⟩)

/-- The keyword of a clause leaves a word for the property. -/
theorem ofWords_lt {words : List Word} (nonempty : words ≠ []) :
    (ofWords words).2 < words.length := by
  rcases ofWords_spec words with ⟨operator, property, keyword, some, same, -, -, named⟩ | ⟨-, named⟩
  · have positive := List.length_pos_iff_ne_nil.mpr some
    rw [named, same, List.length_append]
    exact Nat.lt_add_of_pos_left positive
  · rw [named]
    exact List.length_pos_iff_ne_nil.mpr nonempty

/-- The operator depends on the keys of the words only. -/
theorem ofWords_congr {words others : List Word}
    (keys : words.map Word.key = others.map Word.key) : ofWords words = ofWords others := by
  have length : words.length = others.length := by simpa using congrArg List.length keys
  have ends (keyword : List String) : endsWith words keyword = endsWith others keyword := by
    rw [endsWith, endsWith, List.map_drop, List.map_drop, keys, length]
  simp only [ofWords, length, ends]

section Longest

variable {words : List Word} {keyword : List String}

theorem length_pos_of_mem_keywords {operator : Operator} (member : keyword ∈ operator.keywords) :
    0 < keyword.length := by
  have sizes := length_mem_of_mem_keywordTable _ (mem_keywordTable.mpr member)
  simp only [List.mem_cons, List.not_mem_nil, or_false] at sizes
  omega

/-- The keyword belongs to an operator and ends the words without being all of them. -/
def ClosedBy (words : List Word) (keyword : List String) : Prop :=
  (∃ operator : Operator, keyword ∈ operator.keywords) ∧
    keyword <:+ words.map Word.key ∧ keyword ≠ words.map Word.key

theorem endsBehindProperty_iff :
    EndsBehindProperty words keyword ↔
      keyword <:+ words.map Word.key ∧ keyword ≠ words.map Word.key := by
  constructor
  · rintro ⟨front, back, nonempty, rfl, rfl⟩
    refine ⟨⟨front.map Word.key, by simp⟩, fun same => nonempty ?_⟩
    simpa using congrArg List.length same
  · rintro ⟨⟨front, ends⟩, proper⟩
    obtain ⟨property, last, rfl, rfl, rfl⟩ := List.map_eq_append_iff.mp ends.symm
    refine ⟨property, last, ?_, rfl, rfl⟩
    rintro rfl
    exact proper rfl

/-- Which words a keyword is found in. -/
theorem ClosedBy.eq_drop (closed : ClosedBy words keyword) :
    (words.drop (words.length - keyword.length)).map Word.key = keyword := by
  rw [List.map_drop]
  simpa using (List.suffix_iff_eq_drop.mp closed.2.1).symm

theorem ClosedBy.prepend (closed : ClosedBy words keyword) (more : List Word) :
    ClosedBy (more ++ words) keyword := by
  obtain ⟨owned, ends, proper⟩ := closed
  have longer : words.map Word.key <:+ (more ++ words).map Word.key :=
    ⟨more.map Word.key, by simp⟩
  refine ⟨owned, ends.trans longer, fun same => proper (ends.eq_of_length_le ?_)⟩
  rw [same, List.length_map, List.length_map, List.length_append]
  omega

/-- Two keywords of one length at the end of the same words are the same. -/
theorem ClosedBy.unique {other : List String} (closed : ClosedBy words keyword)
    (again : ClosedBy words other) (lengths : other.length = keyword.length) : other = keyword :=
  (List.suffix_of_suffix_length_le again.2.1 closed.2.1 (Nat.le_of_eq lengths)).eq_of_length lengths

/-- The keyword is the longest of those that end the words. -/
structure LongestBy (words : List Word) (keyword : List String) : Prop where
  closed : ClosedBy words keyword
  longest : ∀ other, ClosedBy words other → other.length ≤ keyword.length

/-- What the last words name has the longest keyword that ends them, if any does. -/
theorem ofWords_longestBy (words : List Word) :
    (∃ (operator : Operator) (keyword : List String), keyword ∈ operator.keywords ∧
      LongestBy words keyword ∧ ofWords words = (operator, keyword.length)) ∨
    ((∀ keyword, ¬ ClosedBy words keyword) ∧ ofWords words = (.simpleProperty, 0)) := by
  rcases ofWords_spec words with
    ⟨operator, property, keyword, nonempty, same, member, longest, named⟩ | ⟨none, named⟩
  · have ends := endsBehindProperty_iff.mp ⟨property, keyword, nonempty, same, rfl⟩
    refine .inl ⟨operator, keyword.map Word.key, member, ⟨⟨⟨operator, member⟩, ends⟩, ?_⟩, ?_⟩
    · rintro _ ⟨⟨other, owned⟩, closes⟩
      obtain ⟨front, back, nonempty', same', rfl⟩ := endsBehindProperty_iff.mpr closes
      rw [List.length_map, List.length_map]
      exact longest front back other nonempty' same' owned
    · rw [named, List.length_map]
  · refine .inr ⟨?_, named⟩
    rintro _ ⟨⟨other, owned⟩, closes⟩
    obtain ⟨front, back, nonempty, same, rfl⟩ := endsBehindProperty_iff.mpr closes
    exact none front back other nonempty same owned

theorem ofWords_pos_iff : 0 < (ofWords words).2 ↔ ∃ keyword, ClosedBy words keyword := by
  rcases ofWords_longestBy words with ⟨operator, keyword, member, longest, named⟩ | ⟨none, named⟩
  · rw [named]
    exact iff_of_true (length_pos_of_mem_keywords member) ⟨keyword, longest.closed⟩
  · rw [named]
    exact iff_of_false (Nat.lt_irrefl 0) fun ⟨keyword, closed⟩ => none keyword closed

theorem ofWords_eq_simple_iff :
    ofWords words = (.simpleProperty, 0) ↔ ∀ keyword, ¬ ClosedBy words keyword := by
  rw [← not_exists, ← ofWords_pos_iff]
  constructor
  · intro named
    rw [named]
    exact Nat.lt_irrefl 0
  · intro without
    rcases ofWords_longestBy words with ⟨operator, keyword, -, longest, -⟩ | ⟨-, named⟩
    · exact absurd (ofWords_pos_iff.mpr ⟨keyword, longest.closed⟩) without
    · exact named

/-- Words in front of others keep the keyword or make it longer, and a keyword of the same length is
the same one. -/
theorem ofWords_prepend (words more : List Word) :
    (ofWords words).2 ≤ (ofWords (more ++ words)).2 ∧
      ((ofWords (more ++ words)).2 = (ofWords words).2 →
        ofWords (more ++ words) = ofWords words) := by
  rcases ofWords_longestBy (more ++ words) with
    ⟨longer, other, memberLonger, longest, namedLonger⟩ | ⟨none, namedLonger⟩ <;>
  rcases ofWords_longestBy words with ⟨operator, keyword, member, ⟨closed, -⟩, named⟩ | ⟨-, named⟩ <;>
  rw [named, namedLonger]
  · refine ⟨longest.longest keyword (closed.prepend more), fun lengths => ?_⟩
    obtain rfl := (closed.prepend more).unique longest.closed lengths
    rw [keyword_unique memberLonger member]
  · have positive := length_pos_of_mem_keywords memberLonger
    exact ⟨Nat.zero_le _, fun lengths => absurd lengths (Nat.ne_of_gt positive)⟩
  · exact absurd (closed.prepend more) (none keyword)
  · exact ⟨Nat.le_refl 0, fun _ => rfl⟩

/-- The last words name an operator exactly when a keyword ends the words behind one more word. The
longest such keyword counts, and no second operator has it; words without any ask for equality. A
word is left for the property of every clause, and words put in front of a clause keep its keyword
or make it longer. -/
theorem ofWords_longest (words : List Word) :
    (0 < (ofWords words).2 ↔ ∃ keyword, ClosedBy words keyword) ∧
    (0 < (ofWords words).2 →
      IsGreatest {size | ∃ keyword, ClosedBy words keyword ∧ keyword.length = size}
        (ofWords words).2 ∧
      ∀ operator : Operator,
        (words.drop (words.length - (ofWords words).2)).map Word.key ∈ operator.keywords ↔
          operator = (ofWords words).1) ∧
    (ofWords words = (.simpleProperty, 0) ↔ ∀ keyword, ¬ ClosedBy words keyword) ∧
    (words ≠ [] → words.take (words.length - (ofWords words).2) ≠ []) ∧
    ∀ more, (ofWords words).2 ≤ (ofWords (more ++ words)).2 ∧
      ((ofWords (more ++ words)).2 = (ofWords words).2 →
        ofWords (more ++ words) = ofWords words) := by
  refine ⟨ofWords_pos_iff, fun positive => ?_, ofWords_eq_simple_iff, fun nonempty => ?_,
    ofWords_prepend words⟩
  · rcases ofWords_longestBy words with ⟨operator, keyword, member, longest, named⟩ | ⟨-, named⟩
    · rw [named]
      refine ⟨⟨⟨keyword, longest.closed, rfl⟩, ?_⟩, fun other => ?_⟩
      · rintro _ ⟨other, closed, rfl⟩
        exact longest.longest other closed
      · rw [longest.closed.eq_drop]
        exact ⟨fun again => keyword_unique again member, fun same => same ▸ member⟩
    · rw [named] at positive
      exact absurd positive (Nat.lt_irrefl 0)
  · have shorter := ofWords_lt nonempty
    rw [← List.length_pos_iff_ne_nil, List.length_take]
    omega

/-- The keyword `not null` hides `null`, and one word more makes it longer. -/
example :
    ofWords [⟨"age", ""⟩, ⟨"Not", ""⟩, ⟨"Null", ""⟩] = (.isNotNull, 2) ∧
      ofWords [⟨"age", ""⟩, ⟨"Is", ""⟩, ⟨"Not", ""⟩, ⟨"Null", ""⟩] = (.isNotNull, 3) ∧
      ofWords [⟨"Null", ""⟩] = (.simpleProperty, 0) := by
  decide +kernel

end Longest

end Operator

/-- Reading the words of a clause finds what they spell. -/
theorem clauseReads_iff {style : NameStyle} {words : List Word} {clause : Clause}
    (spelled : ∀ word ∈ words, word.text ≠ "") :
    ClauseReads style words clause ↔ Clause.ofWords? style words = some clause := by
  have joined {property : List Word} (nonempty : property ≠ [])
      (inside : ∀ word ∈ property, word ∈ words) : joinProperty style property ≠ "" :=
    joinProperty_ne_empty nonempty fun word member => spelled word (inside word member)
  rcases Operator.ofWords_spec words with
    ⟨operator, property, keyword, nonempty, same, member, longest, named⟩ | ⟨none, named⟩
  · have front : words.take (words.length - keyword.length) = property := by simp [same]
    have read : Clause.ofWords? style words = some ⟨joinProperty style property, operator⟩ := by
      simp only [Clause.ofWords?, named, front]
      rw [if_neg (joined nonempty fun word inside => by simp [same, inside])]
    rw [read, Option.some.injEq]
    constructor
    · intro reads
      cases reads with
      | @keyword property' keyword' operator' nonempty' member' longest' =>
          have upper := longest property' keyword' operator' nonempty' rfl member'
          have lower := longest' property keyword operator nonempty same member
          obtain ⟨rfl, rfl⟩ := List.append_inj' same (by omega)
          rw [Operator.keyword_unique member member']
      | equality _ none => exact absurd member (none property keyword operator nonempty same)
    · rintro rfl
      subst same
      exact .keyword nonempty member longest
  · have read (nonempty : words ≠ []) :
        Clause.ofWords? style words = some ⟨joinProperty style words, .simpleProperty⟩ := by
      simp only [Clause.ofWords?, named, Nat.sub_zero, List.take_length]
      rw [if_neg (joined nonempty fun _ inside => inside)]
    constructor
    · intro reads
      cases reads with
      | keyword nonempty member => exact absurd member (none _ _ _ nonempty rfl)
      | equality nonempty => exact read nonempty
    · intro found
      have nonempty : words ≠ [] := by
        rintro rfl
        cases style <;> exact nomatch found
      rw [read nonempty, Option.some.injEq] at found
      exact found ▸ .equality nonempty none

theorem exists_clauseReads_iff {style : NameStyle} {words : List Word} :
    (∃ clause, ClauseReads style words clause) ↔ words ≠ [] := by
  constructor
  · rintro ⟨clause, reads⟩
    cases reads with
    | keyword nonempty => simp [nonempty]
    | equality nonempty => exact nonempty
  · intro nonempty
    rcases Operator.ofWords_spec words with
      ⟨operator, property, keyword, some, rfl, member, longest, -⟩ | ⟨none, -⟩
    · exact ⟨_, .keyword some member longest⟩
    · exact ⟨_, .equality nonempty none⟩

end DerivedQuery
