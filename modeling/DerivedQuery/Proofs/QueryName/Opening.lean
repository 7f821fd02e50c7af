import DerivedQuery.Proofs.QueryName.Grammar
import DerivedQuery.Proofs.QueryName.RoundTrip

/-!
# The opening of a query name

What stands behind the verb of a name is split into the same words, in the same style, whatever the
verb is: letters that run on from the verb are joined to it, and then no name has a verb, because
no verb is the beginning of another. A limit right behind the verb is split off from the rest too.
-/

set_option autoImplicit false

namespace DerivedQuery

variable {front rest : List Char}

theorem ofChars_append (nonempty : front ≠ []) (alphanum : ∀ c ∈ front, c.isAlphanum = true) :
    NameStyle.ofChars (front ++ rest) =
      if (rest.reverse.dropWhile (· == '_')).contains '_' then .snake else .camel := by
  have plain : ∀ c ∈ front, (c == '_') = false := fun c member => by
    simpa using ne_underscore (alphanum c member)
  have kept : (front ++ rest).dropWhile (· == '_') = front ++ rest := by
    cases front with
    | nil => exact absurd rfl nonempty
    | cons c front => simp [plain c (by simp)]
  have keptReversed : front.reverse.dropWhile (· == '_') = front.reverse := by
    refine List.dropWhile_eq_self_iff.mpr fun inside => ?_
    simpa using plain _ (List.mem_reverse.mp (List.getElem_mem inside))
  have absent : '_' ∉ front := fun member => by simpa using plain '_' member
  unfold NameStyle.ofChars
  dsimp only
  rw [kept, List.reverse_append, List.dropWhile_append]
  cases stripped : rest.reverse.dropWhile (· == '_') with
  | nil => simp [keptReversed, absent]
  | cons c others => simp [absent, or_comm]

/-! ## The words behind small letters -/

theorem camelWords_small_append (nonempty : front ≠ []) (lower : ∀ c ∈ front, c.isLower = true) :
    camelWords (front ++ rest) =
      ⟨String.ofList (front ++ rest.takeWhile Char.isLower), ""⟩ ::
        camelWords (rest.dropWhile Char.isLower) := by
  have joined : ∀ c ∈ front ++ rest.takeWhile Char.isLower, c.isLower = true := by
    intro c member
    rcases List.mem_append.mp member with inFront | inRest
    · exact lower c inFront
    · exact List.mem_takeWhile_imp inRest
  have stops : startsSmall (rest.dropWhile Char.isLower) = false := by
    have head := List.head?_dropWhile_not Char.isLower rest
    refine startsSmall_eq_false.mpr fun c isHead => ?_
    rwa [isHead] at head
  conv_lhs => rw [← List.takeWhile_append_dropWhile (p := Char.isLower) (l := rest),
    ← List.append_assoc]
  rw [camelWords_append (.after_small (fun c isLast => joined c (List.mem_of_getLast? isLast)) stops),
    camelWords_small (by simp [nonempty]) joined]
  rfl

theorem scan_letters_append {piece : List Char} (nonempty : front ≠ [])
    (letters : ∀ c ∈ front, c.isAlpha = true) :
    scan snakeWordLength (front ++ piece) =
      (front ++ piece.takeWhile Char.isAlpha) ::
        scan snakeWordLength (piece.dropWhile Char.isAlpha) := by
  cases front with
  | nil => exact absurd rfl nonempty
  | cons c front =>
      obtain ⟨here, others⟩ := List.forall_mem_cons.mp letters
      have length : snakeWordLength (c :: (front ++ piece)) =
          (front ++ piece.takeWhile Char.isAlpha).length + 1 := by
        rw [snakeWordLength, if_pos here, List.takeWhile_append_of_pos others]
      have whole : front ++ piece = (front ++ piece.takeWhile Char.isAlpha) ++
          piece.dropWhile Char.isAlpha := by
        simp
      rw [List.cons_append, scan_cons_of_succ length, whole, List.take_left, List.drop_left]
      rfl

theorem splitWhen_append_plain {α : Type} {test : α → Bool} {front rest piece : List α}
    {pieces : List (List α)} (plain : ∀ x ∈ front, test x = false)
    (split : splitWhen test rest = piece :: pieces) :
    splitWhen test (front ++ rest) = (front ++ piece) :: pieces := by
  induction front with
  | nil => exact split
  | cons x front ih =>
      obtain ⟨here, others⟩ := List.forall_mem_cons.mp plain
      simp [splitWhen, here, ih others]

theorem snakeWords_letters_append {piece : List Char} {pieces : List (List Char)}
    (nonempty : front ≠ []) (letters : ∀ c ∈ front, c.isAlpha = true)
    (split : splitWhen (· == '_') rest = piece :: pieces) :
    snakeWords (front ++ rest) =
      ⟨String.ofList (front ++ piece.takeWhile Char.isAlpha), ""⟩ ::
        ((scan snakeWordLength (piece.dropWhile Char.isAlpha)).map
          (fun cs => ⟨String.ofList cs, ""⟩) ++ wordsOfPieces true pieces) := by
  have plain : ∀ c ∈ front, (c == '_') = false := fun c member => by
    simpa using ne_underscore (isAlphanum_of_isAlpha (letters c member))
  rw [snakeWords, splitWhen_append_plain plain split, wordsOfPieces,
    scan_letters_append nonempty letters]
  rfl

namespace Verb

theorem eq_of_key_prefix {verb other : Verb} (front : verb.key.toList <+: other.key.toList) :
    verb = other := by
  revert front
  cases verb <;> cases other <;> decide

/-- With letters behind it a verb is none. -/
theorem ofKey?_longer (verb : Verb) {more : List Char} (nonempty : more ≠ [])
    (letters : ∀ c ∈ more, c.isAlpha = true) (joiner : String) :
    ofKey? (Word.key ⟨String.ofList (verb.key.toList ++ more), joiner⟩) = none := by
  obtain ⟨-, lower⟩ := verb.key_small
  have ascii : ∀ c ∈ verb.key.toList ++ more, IsAscii c := by
    intro c member
    rcases List.mem_append.mp member with inKey | inMore
    · exact isAscii_of_isLower (lower c inKey)
    · exact isAscii_of_isAlphanum (isAlphanum_of_isAlpha (letters c inMore))
  rw [Word.key_ofList ascii, List.map_append, map_toLower lower]
  cases found : ofKey? (String.ofList (verb.key.toList ++ more.map Char.toLower)) with
  | none => rfl
  | some other =>
      have key := congrArg String.toList (ofKey?_eq_some.mp found)
      rw [String.toList_ofList] at key
      obtain rfl := eq_of_key_prefix ⟨_, key⟩
      exact absurd (List.map_eq_nil_iff.mp (List.append_right_eq_self.mp key)) nonempty

theorem ofKey?_key (verb : Verb) (joiner : String) :
    ofKey? (Word.key ⟨verb.key, joiner⟩) = some verb := by
  have key := key_of_small verb.key_small.2 joiner
  rw [String.ofList_toList] at key
  exact ofKey?_eq_some.mpr key

end Verb

namespace QueryName

/-- Either letters run on from the verb of the name, whichever it is, or the words behind the verb
and the style of the name do not depend on it. -/
theorem exists_opening (rest : String) :
    (∀ verb : Verb, parse (verb.key ++ rest) = .error .noVerb) ∨
      ∃ style words, ∀ verb : Verb, NameStyle.ofName (verb.key ++ rest) = style ∧
        splitWords (verb.key ++ rest) = ⟨verb.key, ""⟩ :: words := by
  have styled (verb : Verb) : NameStyle.ofName (verb.key ++ rest) =
      if (rest.toList.reverse.dropWhile (· == '_')).contains '_' then .snake else .camel := by
    obtain ⟨nonempty, lower⟩ := verb.key_small
    rw [NameStyle.ofName, String.toList_append]
    exact ofChars_append nonempty fun c member => isAlphanum_of_isLower (lower c member)
  -- In both styles the letters behind the verb join it up to a place that the rest alone decides.
  suffices split : ∃ joined words, (∀ c ∈ joined, c.isAlpha = true) ∧ ∀ verb : Verb,
      splitWords (verb.key ++ rest) = ⟨String.ofList (verb.key.toList ++ joined), ""⟩ :: words by
    obtain ⟨joined, words, letters, split⟩ := split
    by_cases nonempty : joined = []
    · refine .inr ⟨_, words, fun verb => ⟨styled verb, ?_⟩⟩
      rw [split, nonempty, List.append_nil, String.ofList_toList]
    · refine .inl fun verb => ?_
      rw [parse, split, ofWords, verb.ofKey?_longer nonempty letters]
  cases snake : (rest.toList.reverse.dropWhile (· == '_')).contains '_' with
  | true =>
      obtain ⟨piece, pieces, split⟩ :=
        List.exists_cons_of_ne_nil (@splitWhen_ne_nil _ (· == '_') rest.toList)
      refine ⟨piece.takeWhile Char.isAlpha, (scan snakeWordLength (piece.dropWhile Char.isAlpha)).map
        (fun cs => ⟨String.ofList cs, ""⟩) ++ wordsOfPieces true pieces,
        fun c member => List.mem_takeWhile_imp member, fun verb => ?_⟩
      obtain ⟨nonempty, lower⟩ := verb.key_small
      rw [splitWords, styled, snake, if_pos rfl, String.toList_append]
      exact snakeWords_letters_append nonempty (fun c member => isAlpha_of_isLower (lower c member))
        split
  | false =>
      refine ⟨rest.toList.takeWhile Char.isLower, camelWords (rest.toList.dropWhile Char.isLower),
        fun c member => isAlpha_of_isLower (List.mem_takeWhile_imp member), fun verb => ?_⟩
      obtain ⟨nonempty, lower⟩ := verb.key_small
      rw [splitWords, styled, snake, if_neg Bool.false_ne_true, String.toList_append]
      exact camelWords_small_append nonempty lower

/-- The readers behind the verb do not see the verb. -/
theorem ofWords_verb {style : NameStyle} {words : List Word} (verb other : Verb) :
    ofWords style (⟨other.key, ""⟩ :: words) =
      (ofWords style (⟨verb.key, ""⟩ :: words)).map fun name => { name with verb := other } := by
  rw [ofWords, ofWords, verb.ofKey?_key, other.ofKey?_key]
  dsimp only
  cases parseLimit (splitSubject words).1 with
  | error fault => rfl
  | ok limit =>
      cases splitOrdering (splitSubject words).2 with
      | error fault => rfl
      | ok parts =>
          change (parsePredicate style parts.1 >>= _) = (parsePredicate style parts.1 >>= _).map _
          cases parsePredicate style parts.1 with
          | error fault => rfl
          | ok groups =>
              change (parseOrdering style parts.2 >>= _) = (parseOrdering style parts.2 >>= _).map _
              cases parseOrdering style parts.2 <;> rfl

/-- Names that differ in the verb are read alike. -/
theorem parse_verb (verb other : Verb) (rest : String) :
    parse (other.key ++ rest) =
      (parse (verb.key ++ rest)).map fun name => { name with verb := other } := by
  rcases exists_opening rest with noVerb | ⟨style, words, opening⟩
  · rw [noVerb, noVerb]
    rfl
  · rw [parse, parse, (opening verb).1, (opening verb).2, (opening other).1, (opening other).2]
    exact ofWords_verb verb other

/-! ## A limit behind the verb -/

theorem ofWords_alone (style other : NameStyle) (word : Word) :
    ofWords style [word] = ofWords other [word] := by
  rw [ofWords, ofWords]
  cases Verb.ofKey? word.key <;> rfl

/-- `Top` and a number behind the verb set the limit and leave everything else. -/
theorem ofWords_top {style : NameStyle} {verb : Verb} {top number : Word} {words : List Word}
    {n : Nat} {name : QueryName} (isTop : top.key = "top")
    (text : number.text = String.ofList (Nat.toDigits 10 n)) (short : (toString n).length ≤ 4300)
    (read : ofWords style (⟨verb.key, ""⟩ :: words) = .ok name) :
    ofWords style (⟨verb.key, ""⟩ :: top :: number :: words) =
      .ok { name with limit := some n } := by
  have numberKey (key : String) (letters : key.toList.all Char.isDigit = false) :
      number.key ≠ key := key_ne_of_digits text letters
  have subject : splitSubject (top :: number :: words) =
      (top :: number :: (splitSubject words).1, (splitSubject words).2) := by
    simp [splitSubject, isTop, numberKey "by" (by decide)]
  have limit : parseLimit (top :: number :: (splitSubject words).1) = .ok (some n) := by
    obtain ⟨isNumber, value⟩ := isNumber_of_digits text
    have fits : ¬ Numeral.maxDigits < number.text.toList.length := by
      simpa [text, Numeral.maxDigits, Nat.repr] using short
    rw [parseLimit_eq, behindDistinct, if_neg (by simp [isTop]), readLimit, if_pos (by simp [isTop]),
      limitOf, Word.isNumber_iff.mp isNumber, if_neg Bool.false_ne_true, if_neg fits, value]
    rfl
  -- Neither of the new words is read as anything but the limit.
  have distinct : ((top :: number :: (splitSubject words).1).any fun word =>
      word.key == "distinct") = (splitSubject words).1.any fun word => word.key == "distinct" := by
    simp [isTop, numberKey "distinct" (by decide)]
  rw [ofWords, verb.ofKey?_key] at read ⊢
  dsimp only at read ⊢
  obtain ⟨before, -, read⟩ := bind_eq_ok.mp read
  obtain ⟨parts, ordered, read⟩ := bind_eq_ok.mp read
  obtain ⟨groups, grouped, read⟩ := bind_eq_ok.mp read
  obtain ⟨orders, sorted, read⟩ := bind_eq_ok.mp read
  obtain rfl := Except.ok.inj read
  rw [subject]
  dsimp only
  rw [limit, distinct]
  refine bind_eq_ok.mpr ⟨_, rfl, bind_eq_ok.mpr ⟨parts, ordered, ?_⟩⟩
  exact bind_eq_ok.mpr ⟨groups, grouped, bind_eq_ok.mpr ⟨orders, sorted, rfl⟩⟩

theorem camelWords_small_cons {cs back : List Char} (nonempty : cs ≠ [])
    (lower : ∀ c ∈ cs, c.isLower = true) (starts : startsSmall back = false) :
    camelWords (cs ++ back) = ⟨String.ofList cs, ""⟩ :: camelWords back := by
  rw [camelWords_append (.after_small (fun c isLast => lower c (List.mem_of_getLast? isLast)) starts),
    camelWords_small nonempty lower]
  rfl

theorem camelWords_top {c : Char} {tail : List Char} {n : Nat} (upper : c.isUpper = true) :
    camelWords ("Top".toList ++ (Nat.toDigits 10 n ++ c :: tail)) =
      ⟨"Top", ""⟩ :: ⟨String.ofList (Nat.toDigits 10 n), ""⟩ :: camelWords (c :: tail) := by
  have digits := toDigits_isDigit n
  have startsDigit : startsSmall (Nat.toDigits 10 n ++ c :: tail) = false := by
    obtain ⟨d, others, isDigits⟩ := List.exists_cons_of_ne_nil (@Nat.toDigits_ne_nil n 10)
    rw [isDigits] at digits ⊢
    exact (not_isAlpha_of_isDigit (digits d List.mem_cons_self)).2
  have breaks : Breaks (Nat.toDigits 10 n) (c :: tail) := by
    refine ⟨not_isLower_of_isUpper upper, fun x isLast upperLast => ?_, fun _ _ _ y isHead => ?_⟩
    · rw [(not_isAlpha_of_isDigit (digits x (List.mem_of_getLast? isLast))).1] at upperLast
      exact nomatch upperLast
    · obtain rfl := Option.some.inj isHead
      exact Text.not_isDigit_of_isAlpha (isAlpha_of_isUpper upper)
  have top : camelWords "Top".toList = [⟨"Top", ""⟩] := by decide +kernel
  rw [camelWords_append (.after_small (by simp) startsDigit), top, camelWords_append breaks,
    camelWords_digits Nat.toDigits_ne_nil digits]
  rfl

variable {verb : Verb} {rest : String} {n : Nat} {name : QueryName}

/-- In snake style a name of which the verb runs on into letters has no verb. -/
theorem parse_letter_snake {c : Char} {tail : List Char} (chars : rest.toList = c :: tail)
    (letter : c.isAlpha = true)
    (snake : (rest.toList.reverse.dropWhile (· == '_')).contains '_' = true) :
    parse (verb.key ++ rest) = .error .noVerb := by
  obtain ⟨nonempty, lower⟩ := verb.key_small
  have style : NameStyle.ofName (verb.key ++ rest) = .snake := by
    rw [NameStyle.ofName, String.toList_append, ofChars_append nonempty fun c member =>
      isAlphanum_of_isLower (lower c member), if_pos snake]
  have plain : (c == '_') = false := by
    simpa using ne_underscore (isAlphanum_of_isAlpha letter)
  obtain ⟨piece, pieces, -, split⟩ := @splitWhen_cons_plain _ (· == '_') c tail plain
  rw [← chars] at split
  rw [parse, splitWords, style, String.toList_append]
  dsimp only
  rw [snakeWords_letters_append nonempty (fun c member => isAlpha_of_isLower (lower c member)) split,
    ofWords, verb.ofKey?_longer]
  · simp [letter]
  · exact fun c member => List.mem_takeWhile_imp member

/-- In camel style the limit stands before a capital. -/
theorem parse_camel_top {c : Char} {tail : List Char} (chars : rest.toList = c :: tail)
    (upper : c.isUpper = true) (short : (toString n).length ≤ 4300)
    (read : parse (verb.key ++ rest) = .ok name) :
    parse (verb.key ++ "Top" ++ toString n ++ rest) = .ok { name with limit := some n } := by
  obtain ⟨nonempty, lower⟩ := verb.key_small
  have alphanum : ∀ c ∈ verb.key.toList, c.isAlphanum = true := fun c member =>
    isAlphanum_of_isLower (lower c member)
  have topAlphanum : ∀ c ∈ "Top".toList, c.isAlphanum = true := by simp
  have limited : (verb.key ++ "Top" ++ toString n ++ rest).toList =
      (verb.key.toList ++ "Top".toList ++ Nat.toDigits 10 n) ++ rest.toList := by
    simp [Nat.repr]
  cases snake : (rest.toList.reverse.dropWhile (· == '_')).contains '_' with
  | true =>
      rw [parse_letter_snake chars (isAlpha_of_isUpper upper) snake] at read
      exact nomatch read
  | false =>
      have style : NameStyle.ofName (verb.key ++ rest) = .camel := by
        rw [NameStyle.ofName, String.toList_append, ofChars_append nonempty alphanum, snake]
        rfl
      have styleLimited : NameStyle.ofName (verb.key ++ "Top" ++ toString n ++ rest) = .camel := by
        rw [NameStyle.ofName, limited, ofChars_append (by simp [nonempty]), snake]
        · rfl
        · intro c member
          rcases List.mem_append.mp member with member | inDigits
          · rcases List.mem_append.mp member with inVerb | inTop
            · exact alphanum c inVerb
            · exact topAlphanum c inTop
          · exact isAlphanum_of_isDigit (toDigits_isDigit n c inDigits)
      have starts : startsSmall (c :: tail) = false := not_isLower_of_isUpper upper
      rw [parse, splitWords, style, String.toList_append, chars] at read
      dsimp only at read
      rw [camelWords_small_cons nonempty lower starts, String.ofList_toList] at read
      rw [parse, splitWords, styleLimited, limited, chars, List.append_assoc, List.append_assoc]
      dsimp only
      rw [camelWords_small_cons nonempty lower (by rfl), String.ofList_toList,
        camelWords_top upper]
      exact ofWords_top (by decide) rfl short read

theorem wordsOfPieces_cons {cs : List Char} {pieces : List (List Char)} (started : Bool)
    (scanned : scan snakeWordLength cs = [cs]) :
    wordsOfPieces started (cs :: pieces) =
      ⟨String.ofList cs, if started then "_" else ""⟩ :: wordsOfPieces true pieces := by
  rw [wordsOfPieces, scanned]
  rfl

theorem snakeWords_verb (verb : Verb) (tail : List Char) :
    snakeWords (verb.key.toList ++ '_' :: tail) =
      ⟨verb.key, ""⟩ :: wordsOfPieces true (splitWhen (· == '_') tail) := by
  obtain ⟨nonempty, lower⟩ := verb.key_small
  rw [snakeWords, splitWhen_append_cons _ _ (by decide),
    splitWhen_alphanum fun c member => isAlphanum_of_isLower (lower c member),
    List.singleton_append, wordsOfPieces_cons _
      (scan_letters nonempty fun c member => isAlpha_of_isLower (lower c member)),
    String.ofList_toList]
  rfl

theorem wordsOfPieces_top (n : Nat) (tail : List Char) :
    wordsOfPieces true (splitWhen (· == '_') ("top".toList ++ '_' ::
        (Nat.toDigits 10 n ++ '_' :: tail))) =
      ⟨"top", "_"⟩ :: ⟨String.ofList (Nat.toDigits 10 n), "_"⟩ ::
        wordsOfPieces true (splitWhen (· == '_') tail) := by
  have digits := toDigits_isDigit n
  have top : splitWhen (· == '_') "top".toList = ["top".toList] := by decide +kernel
  rw [splitWhen_append_cons _ _ (by decide), top, splitWhen_append_cons _ _ (by decide),
    splitWhen_alphanum fun c member => isAlphanum_of_isDigit (digits c member),
    List.singleton_append, List.singleton_append, wordsOfPieces_cons _ (by decide +kernel),
    wordsOfPieces_cons _ (scan_digits Nat.toDigits_ne_nil digits)]
  rfl

theorem camelWords_underscores {cs : List Char} (all : ∀ c ∈ cs, c = '_') : camelWords cs = [] := by
  induction cs with
  | nil => rfl
  | cons c cs ih =>
      obtain ⟨rfl, others⟩ := List.forall_mem_cons.mp all
      rw [camelWords, scan_cons_of_zero (by rfl)]
      exact ih others

theorem wordsOfPieces_underscores {cs : List Char} (all : ∀ c ∈ cs, c = '_') :
    wordsOfPieces true (splitWhen (· == '_') cs) = [] := by
  induction cs with
  | nil => rfl
  | cons c cs ih =>
      obtain ⟨rfl, others⟩ := List.forall_mem_cons.mp all
      exact ih others

/-- In snake style the limit stands before an underscore. -/
theorem parse_snake_top {tail : List Char} (chars : rest.toList = '_' :: tail)
    (short : (toString n).length ≤ 4300) (read : parse (verb.key ++ rest) = .ok name) :
    parse (verb.key ++ "_top_" ++ toString n ++ rest) = .ok { name with limit := some n } := by
  obtain ⟨nonempty, lower⟩ := verb.key_small
  obtain ⟨c, inVerb⟩ := List.exists_mem_of_ne_nil _ nonempty
  have plain : c ≠ '_' := ne_underscore (isAlphanum_of_isLower (lower c inVerb))
  have limited : (verb.key ++ "_top_" ++ toString n ++ rest).toList =
      verb.key.toList ++ '_' :: ("top".toList ++ '_' :: (Nat.toDigits 10 n ++ '_' :: tail)) := by
    simp [Nat.repr, chars]
  have styleLimited : NameStyle.ofName (verb.key ++ "_top_" ++ toString n ++ rest) = .snake := by
    rw [NameStyle.ofName, limited]
    exact ofChars_eq_snake ⟨c, inVerb, plain⟩ ⟨'t', by simp, by decide⟩
  rw [parse, splitWords, styleLimited, limited]
  dsimp only
  rw [snakeWords_verb, wordsOfPieces_top]
  refine ofWords_top (by decide +kernel) rfl short ?_
  rw [parse, splitWords, NameStyle.ofName, String.toList_append, chars] at read
  by_cases others : ∃ d ∈ tail, d ≠ '_'
  · rw [ofChars_eq_snake ⟨c, inVerb, plain⟩ others] at read
    dsimp only at read
    rwa [snakeWords_verb] at read
  · -- The verb is the whole name, which is in camel style without the limit.
    have all : ∀ d ∈ tail, d = '_' := by simpa using others
    have camel : NameStyle.ofChars (verb.key.toList ++ '_' :: tail) = .camel := by
      rw [ofChars_append nonempty fun c member => isAlphanum_of_isLower (lower c member)]
      have stripped : ('_' :: tail).reverse.dropWhile (· == '_') = [] := by
        refine List.dropWhile_eq_nil_iff.mpr fun d member => beq_iff_eq.mpr ?_
        rcases List.mem_cons.mp (List.mem_reverse.mp member) with isFirst | inTail
        · exact isFirst
        · exact all d inTail
      rw [stripped]
      rfl
    rw [camel] at read
    dsimp only at read
    rw [camelWords_small_cons nonempty lower (by rfl), String.ofList_toList,
      camelWords_underscores (by simpa using all)] at read
    rwa [wordsOfPieces_underscores all, ofWords_alone .snake .camel]

end QueryName

end DerivedQuery
