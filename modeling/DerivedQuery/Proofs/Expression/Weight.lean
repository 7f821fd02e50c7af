import DerivedQuery.Expression.Reader
import Mathlib.Data.List.Basic
import Mathlib.Data.Nat.Basic
import Mathlib.Order.Basic

/-!
# The weight of tokens

A token weighs one, and a text with places as much more as it has characters, since its places are
read as texts of their own. The tokens of a text weigh no more than it has characters, and neither do
those of a place with the brackets around it.
-/

set_option autoImplicit false

namespace DerivedQuery

namespace Token

/-- How much the brackets in a token may count for. -/
def weight : Token → Nat
  | .template _ content => content.length + 1
  | _ => 1

/-- The weight of tokens together. -/
def weights : List Token → Nat
  | [] => 0
  | token :: tokens => token.weight + weights tokens

theorem weight_pos (token : Token) : 0 < token.weight := by
  cases token <;> exact Nat.succ_pos _

theorem weights_cons (token : Token) (tokens : List Token) :
    weights (token :: tokens) = token.weight + weights tokens := rfl

theorem weights_drop_le (tokens : List Token) (count : Nat) :
    weights (tokens.drop count) ≤ weights tokens := by
  induction tokens generalizing count with
  | nil => rw [List.drop_nil]
  | cons token tokens ih =>
    cases count with
    | zero => exact le_rfl
    | succ count => exact (ih count).trans (Nat.le_add_left _ _)

theorem weight_le_weights {tokens : List Token} {token : Token}
    (head : tokens.head? = some token) : token.weight ≤ weights tokens := by
  obtain ⟨rest, rfl⟩ := List.head?_eq_some_iff.mp head
  exact Nat.le_add_right _ _

theorem weights_drop_one_lt {tokens : List Token} {token : Token}
    (head : tokens.head? = some token) : weights (tokens.drop 1) < weights tokens := by
  obtain ⟨rest, rfl⟩ := List.head?_eq_some_iff.mp head
  have positive := token.weight_pos
  rw [List.drop_one, List.tail_cons, weights_cons]
  omega

/-! ## Numbers -/

private theorem length_splitDigits {base : Nat} {cs digits rest : List Char}
    (split : splitDigits base cs = some (digits, rest)) : rest.length ≤ cs.length := by
  unfold splitDigits at split
  dsimp only at split
  split at split
  · exact nomatch split
  · obtain ⟨-, rfl⟩ := Prod.mk.inj (Option.some.inj split)
    exact (List.drop_suffix _ cs).length_le

/-- A digit at the head is read. -/
private theorem length_splitDigits_cons {base : Nat} {c : Char} {cs digits rest : List Char}
    (isDigit : (Escape.digit? base c).isSome = true)
    (split : splitDigits base (c :: cs) = some (digits, rest)) : rest.length ≤ cs.length := by
  unfold splitDigits at split
  dsimp only at split
  split at split
  · exact nomatch split
  · obtain ⟨-, rfl⟩ := Prod.mk.inj (Option.some.inj split)
    rw [List.takeWhile_cons_of_pos (by simp [isDigit]), List.length_cons, List.drop_succ_cons]
    exact (List.drop_suffix _ cs).length_le

private theorem length_splitExponent {cs exponent rest : List Char}
    (split : splitExponent cs = some (exponent, rest)) : rest.length ≤ cs.length := by
  unfold splitExponent at split
  cases cs with
  | nil =>
      obtain ⟨-, rfl⟩ := Prod.mk.inj (Option.some.inj split)
      exact le_rfl
  | cons mark cs =>
      dsimp only at split
      generalize (if cs.head? = some '-' ∨ cs.head? = some '+' then cs.take 1 else []) = sign
        at split
      split at split
      · obtain ⟨-, rfl⟩ := Prod.mk.inj (Option.some.inj split)
        exact le_rfl
      split at split
      · obtain ⟨⟨digits, after⟩, digitsSplit, same⟩ := Option.bind_eq_some_iff.mp split
        obtain ⟨-, rfl⟩ := Prod.mk.inj (Option.some.inj same)
        have fewer := length_splitDigits digitsSplit
        rw [List.length_drop] at fewer
        exact fewer.trans (by rw [List.length_cons]; omega)
      split at split
      · obtain ⟨-, rfl⟩ := Prod.mk.inj (Option.some.inj split)
        exact le_rfl
      · exact nomatch split

private theorem digit?_of_isDigit {c : Char} (isDigit : c.isDigit = true) :
    (Escape.digit? 10 c).isSome = true := by
  have small : c.toNat - 48 < 10 := by
    simp only [Char.isDigit, Bool.and_eq_true, decide_eq_true_eq] at isDigit
    have upper : c.val.toNat ≤ 57 := isDigit.2
    change c.val.toNat - 48 < 10
    omega
  simp [Escape.digit?, isDigit, small]

private theorem weight_ofDecimalParts {pointed : Bool} {whole fraction exponent rest : List Char}
    {token : Token} {after : List Char}
    (read : ofDecimalParts pointed whole fraction exponent rest = some (token, after)) :
    token.weight = 1 ∧ after.length ≤ rest.length := by
  have dropped := (List.drop_suffix 1 rest).length_le
  obtain ⟨size, -, read⟩ := Option.bind_eq_some_iff.mp read
  split at read
  · split at read
    · obtain ⟨rfl, rfl⟩ := Prod.mk.inj (Option.some.inj read)
      exact ⟨rfl, dropped⟩
    · exact nomatch read
  split at read
  · exact nomatch read
  split at read
  · obtain ⟨rfl, rfl⟩ := Prod.mk.inj (Option.some.inj read)
    exact ⟨rfl, le_rfl⟩
  dsimp only at read
  split at read
  · exact nomatch read
  · obtain ⟨rfl, rfl⟩ := Prod.mk.inj (Option.some.inj read)
    exact ⟨rfl, le_rfl⟩

/-- Either a digit of the whole part is the first character, or the point behind none. -/
private theorem weight_readDecimal {c : Char} {cs after : List Char} {token : Token}
    (starts : c.isDigit = true ∨ c = '.')
    (read : readDecimal (c :: cs) = some (token, after)) :
    token.weight + after.length ≤ cs.length + 1 := by
  obtain ⟨⟨whole, afterWhole⟩, wholeSplit, read⟩ := Option.bind_eq_some_iff.mp read
  have ending {pointed : Bool} {fraction afterFraction : List Char}
      (fewer : afterFraction.length ≤ cs.length)
      (read : ((splitExponent afterFraction).bind fun found =>
        ofDecimalParts pointed whole fraction found.1 found.2) = some (token, after)) :
      token.weight + after.length ≤ cs.length + 1 := by
    obtain ⟨⟨exponent, rest⟩, exponentSplit, read⟩ := Option.bind_eq_some_iff.mp read
    obtain ⟨one, afterwards⟩ : token.weight = 1 ∧ after.length ≤ rest.length :=
      weight_ofDecimalParts read
    have behindExponent : rest.length ≤ afterFraction.length := length_splitExponent exponentSplit
    omega
  dsimp only at read
  rcases starts with isDigit | rfl
  · have behindWhole := length_splitDigits_cons (digit?_of_isDigit isDigit) wholeSplit
    split at read
    · obtain ⟨⟨fraction, afterFraction⟩, fractionSplit, read⟩ := Option.bind_eq_some_iff.mp read
      have behindFraction := length_splitDigits fractionSplit
      have dropped := (List.drop_suffix 1 afterWhole).length_le
      exact ending (behindFraction.trans (dropped.trans behindWhole)) read
    · exact ending behindWhole read
  · have noWhole : splitDigits 10 ('.' :: cs) = some ([], '.' :: cs) := rfl
    obtain ⟨rfl, rfl⟩ := Prod.mk.inj (Option.some.inj (noWhole.symm.trans wholeSplit))
    rw [if_pos (show ('.' :: cs).head? = some '.' from rfl)] at read
    obtain ⟨⟨fraction, afterFraction⟩, fractionSplit, read⟩ := Option.bind_eq_some_iff.mp read
    exact ending (length_splitDigits fractionSplit) read

private theorem weight_readPrefixed {base : Nat} {cs after : List Char} {token : Token}
    (read : readPrefixed base cs = some (token, after)) :
    token.weight = 1 ∧ after.length ≤ cs.length := by
  obtain ⟨⟨digits, rest⟩, digitsSplit, read⟩ := Option.bind_eq_some_iff.mp read
  have behind := length_splitDigits digitsSplit
  have fewer : rest.length ≤ cs.length := by
    refine behind.trans ?_
    split
    · exact (List.drop_suffix 1 cs).length_le
    · exact le_rfl
  dsimp only at read
  split at read
  · exact nomatch read
  · obtain ⟨n, -, same⟩ := Option.map_eq_some_iff.mp read
    obtain ⟨rfl, rfl⟩ := Prod.mk.inj same
    exact ⟨rfl, fewer⟩

private theorem weight_readNumber {c : Char} {cs after : List Char} {token : Token}
    (starts : c.isDigit = true ∨ c = '.')
    (read : readNumber (c :: cs) = some (token, after)) :
    token.weight + after.length ≤ cs.length + 1 := by
  unfold readNumber at read
  split at read
  case h_7 => exact weight_readDecimal starts read
  all_goals
    obtain ⟨one, fewer⟩ := weight_readPrefixed read
    rename_i rest same
    obtain ⟨-, rfl⟩ := List.cons.inj same
    rw [List.length_cons]
    omega

/-! ## Texts and names -/

private theorem length_readQuoted {mark : Char} {threefold : Bool} {cs content rest : List Char}
    (read : readQuoted mark threefold cs = some (content, rest)) :
    content.length + rest.length + 1 ≤ cs.length := by
  fun_induction readQuoted mark threefold cs generalizing content rest with
  | case1 => exact nomatch read
  | case2 c cs ih =>
      obtain ⟨⟨inside, after⟩, further, same⟩ := Option.map_eq_some_iff.mp read
      obtain ⟨rfl, rfl⟩ := Prod.mk.inj same
      have shorter := ih further
      simp only [List.length_cons]
      omega
  | case3 c cs _ closes =>
      obtain ⟨rfl, rfl⟩ := Prod.mk.inj (Option.some.inj read)
      simp only [List.length_nil, List.length_cons]
      omega
  | case4 c cs _ _ closes =>
      obtain ⟨rfl, rfl⟩ := Prod.mk.inj (Option.some.inj read)
      simp only [List.length_nil, List.length_cons, List.length_drop]
      omega
  | case5 => exact nomatch read
  | case6 c cs _ _ _ _ ih =>
      obtain ⟨⟨inside, after⟩, further, same⟩ := Option.map_eq_some_iff.mp read
      obtain ⟨rfl, rfl⟩ := Prod.mk.inj same
      have shorter := ih further
      simp only [List.length_cons]
      omega

private theorem weight_readText {letters cs after : List Char} {token : Token}
    (read : readText letters cs = some (token, after)) :
    token.weight + after.length ≤ cs.length := by
  obtain ⟨mark, head, read⟩ := Option.bind_eq_some_iff.mp read
  obtain ⟨cs, rfl⟩ := List.head?_eq_some_iff.mp head
  obtain ⟨⟨content, rest⟩, quoted, read⟩ := Option.bind_eq_some_iff.mp read
  -- The marks around the content are at least two.
  have inside : content.length + rest.length + 2 ≤ (mark :: cs).length := by
    have shorter := length_readQuoted quoted
    rw [List.length_drop] at shorter
    rw [List.length_cons] at shorter ⊢
    split at shorter <;> omega
  dsimp only at read
  split at read
  · obtain ⟨rfl, rfl⟩ := Prod.mk.inj (Option.some.inj read)
    change content.length + 1 + _ ≤ _
    omega
  split at read
  · have made : ∃ bytes, (Token.bytes bytes, rest) = (token, after) := by
      split at read
      · obtain ⟨bytes, -, same⟩ := Option.bind_eq_some_iff.mp read
        exact ⟨bytes, Option.some.inj same⟩
      split at read
      · exact ⟨_, Option.some.inj read⟩
      · exact nomatch read
    obtain ⟨bytes, same⟩ := made
    obtain ⟨rfl, rfl⟩ := Prod.mk.inj same
    change 1 + _ ≤ _
    omega
  · have made : ∃ plain, (Token.text plain, rest) = (token, after) := by
      split at read
      · exact ⟨_, Option.some.inj read⟩
      · obtain ⟨plain, -, same⟩ := Option.bind_eq_some_iff.mp read
        exact ⟨plain, Option.some.inj same⟩
    obtain ⟨plain, same⟩ := made
    obtain ⟨rfl, rfl⟩ := Prod.mk.inj same
    change 1 + _ ≤ _
    omega

private theorem weight_readName {c : Char} {cs after : List Char} {token : Token}
    (starts : looksLikeName c = true) (read : readName (c :: cs) = some (token, after)) :
    token.weight + after.length ≤ cs.length + 1 := by
  have shorter := (List.drop_suffix (cs.takeWhile looksLikeName).length cs).length_le
  unfold readName at read
  rw [List.takeWhile_cons_of_pos starts] at read
  dsimp only at read
  split at read
  · exact nomatch read
  · obtain ⟨rfl, rfl⟩ := Prod.mk.inj (Option.some.inj read)
    rw [List.length_cons, List.drop_succ_cons]
    split
    · change 1 + _ ≤ _
      omega
    · change 1 + _ ≤ _
      omega

/-- Every token takes as many characters at least as it weighs. -/
theorem weight_read {cs after : List Char} {token : Token}
    (found : read cs = some (token, after)) : token.weight + after.length ≤ cs.length := by
  obtain ⟨c, head, found⟩ := Option.bind_eq_some_iff.mp found
  obtain ⟨cs, rfl⟩ := List.head?_eq_some_iff.mp head
  split at found
  · exact (weight_readText found).trans (List.drop_suffix _ _).length_le
  split at found
  · rename_i starts
    refine weight_readNumber ?_ found
    simp only [Bool.or_eq_true, Bool.and_eq_true, decide_eq_true_eq] at starts
    exact starts.imp_right And.left
  split at found
  · exact weight_readName ‹_› found
  · obtain ⟨mark, isMark, same⟩ := Option.bind_eq_some_iff.mp found
    obtain ⟨rfl, rfl⟩ := Prod.mk.inj (Option.some.inj same)
    have visible : ∀ mark ∈ marks, 0 < mark.length := by decide
    have taken := visible mark (List.mem_of_find?_eq_some isMark)
    change 1 + _ ≤ _
    rw [List.length_drop, List.length_cons]
    omega

theorem weights_readLine {fuel depth : Nat} {cs : List Char} {tokens : List Token}
    (found : readLine fuel depth cs = some tokens) : weights tokens ≤ cs.length := by
  induction fuel generalizing depth cs tokens with
  | zero => exact nomatch found
  | succ fuel ih =>
      cases cs with
      | nil =>
          obtain rfl := Option.some.inj found
          exact le_rfl
      | cons c rest =>
          rw [List.length_cons]
          have drops {after : List Char} (found : readLine fuel depth after = some tokens)
              (suffix : after <:+ rest) : weights tokens ≤ rest.length + 1 :=
            (ih found).trans (suffix.length_le.trans (Nat.le_succ _))
          rw [readLine] at found
          split at found
          · exact drops found List.suffix_rfl
          split at found
          · exact drops found (List.dropWhile_suffix _)
          split at found
          · split at found
            · exact drops found List.suffix_rfl
            · split at found
              · obtain rfl := Option.some.inj found
                exact Nat.zero_le _
              · exact nomatch found
          split at found
          · split at found
            · exact drops found (List.drop_suffix _ _)
            · exact nomatch found
          · obtain ⟨⟨token, after⟩, one, found⟩ := Option.bind_eq_some_iff.mp found
            obtain ⟨opened, -, found⟩ := Option.bind_eq_some_iff.mp found
            obtain ⟨others, further, rfl⟩ := Option.map_eq_some_iff.mp found
            have taken := weight_read one
            have behind := ih further
            rw [weights_cons]
            rw [List.length_cons] at taken
            omega

private theorem length_withPlainLines (cs : List Char) :
    (withPlainLines cs).length ≤ cs.length := by
  fun_induction withPlainLines cs with
  | case1 => exact le_rfl
  | case2 rest ih =>
      simp only [List.length_cons]
      omega
  | case3 c rest _ ih =>
      simp only [List.length_cons]
      omega

theorem weights_ofText? {text : String} {tokens : List Token} (read : ofText? text = some tokens) :
    weights tokens ≤ text.length := by
  rw [← String.length_toList]
  exact (weights_readLine read).trans (length_withPlainLines _)

private theorem length_firstLine? {comment : Bool} {column : Nat} {cs line : List Char}
    (found : firstLine? comment column cs = some line) : line.length ≤ cs.length := by
  fun_induction firstLine? comment column cs with
  | case1 | case10 =>
      obtain rfl := Option.some.inj found
      exact le_rfl
  | case5 | case11 => exact nomatch found
  | case2 _ _ _ ih | case3 _ _ ih | case4 _ _ _ ih | case6 _ _ _ _ _ ih | case7 _ _ _ _ _ _ ih
    | case8 _ _ _ _ _ _ _ ih | case9 _ _ _ _ _ _ _ _ _ _ ih =>
      have shorter := ih found
      simp only [List.length_cons]
      omega

theorem weights_ofWholeText? {text : String} {tokens : List Token}
    (read : ofWholeText? text = some tokens) : weights tokens ≤ text.length := by
  obtain ⟨line, first, read⟩ := Option.bind_eq_some_iff.mp read
  rw [← String.length_toList]
  exact (weights_readLine read).trans ((length_firstLine? first).trans (length_withPlainLines _))

end Token

/-! ## Places -/

/-- The expression of every place in a piece, with brackets around it, has no more than `size`
characters. -/
inductive JoinedPiece.Within (size : Nat) : JoinedPiece → Prop where
  | plain (content : List Char) : Within size (.plain content)
  | place {expression : List Char} (label : List Char) (conversion : Option Char)
      {layout : List JoinedPiece} (fits : expression.length + 2 ≤ size)
      (inside : ∀ piece ∈ layout, Within size piece) :
      Within size (.place expression label conversion layout)

namespace JoinedPiece

private theorem length_splitPlain {raw inLayout named : Bool} {cs written rest : List Char}
    (split : splitPlain raw inLayout named cs = some (written, rest)) :
    rest.length ≤ cs.length := by
  fun_induction splitPlain raw inLayout named cs generalizing written with
  | case1 | case4 | case8 | case10 =>
      obtain ⟨-, rfl⟩ := Prod.mk.inj (Option.some.inj split)
      exact le_rfl
  | case3 =>
      obtain ⟨-, rfl⟩ := Prod.mk.inj (Option.some.inj split)
      exact Nat.zero_le _
  | case5 | case11 => exact nomatch split
  | case2 | case6 | case7 | case9 =>
      rename_i ih
      obtain ⟨⟨inside, behind⟩, found, same⟩ := Option.map_eq_some_iff.mp split
      obtain ⟨-, rfl⟩ := Prod.mk.inj same
      have shorter := ih found
      simp only [List.length_cons] at shorter ⊢
      omega

private theorem length_splitExpression {quote : Option (Char × Bool)} {closers : List Char}
    {skipped : Nat} {cs expression rest : List Char}
    (split : splitExpression quote closers skipped cs = some (expression, rest)) :
    expression.length + rest.length ≤ cs.length := by
  induction cs generalizing quote closers skipped expression rest with
  | nil => cases skipped <;> exact nomatch split
  | cons c cs ih =>
      have further {quote : Option (Char × Bool)} {closers : List Char} {skipped : Nat}
          (split : ((splitExpression quote closers skipped cs).map fun found =>
            (c :: found.1, found.2)) = some (expression, rest)) :
          expression.length + rest.length ≤ (c :: cs).length := by
        obtain ⟨⟨inside, behind⟩, found, same⟩ := Option.map_eq_some_iff.mp split
        obtain ⟨rfl, rfl⟩ := Prod.mk.inj same
        have shorter := ih found
        simp only [List.length_cons]
        omega
      cases skipped with
      | succ skipped => exact further split
      | zero =>
          unfold splitExpression at split
          dsimp only at split
          repeat' split at split
          -- An ending character is left; every other one goes on, or nothing is found.
          all_goals first
            | exact further split
            | (obtain ⟨rfl, rfl⟩ := Prod.mk.inj (Option.some.inj split)
               exact (Nat.zero_add _).le)
            | cases split

private theorem length_splitEquals (cs : List Char) : (splitEquals cs).2.length ≤ cs.length := by
  unfold splitEquals
  split
  · exact (List.dropWhile_suffix _).length_le.trans (Nat.le_succ _)
  · exact le_rfl

private theorem length_splitConversion {cs rest : List Char} {conversion : Option Char}
    (split : splitConversion cs = some (conversion, rest)) : rest.length ≤ cs.length := by
  unfold splitConversion at split
  split at split
  · split at split
    · obtain ⟨-, rfl⟩ := Prod.mk.inj (Option.some.inj split)
      simp only [List.length_cons]
      omega
    · exact nomatch split
  · exact nomatch split
  · obtain ⟨-, rfl⟩ := Prod.mk.inj (Option.some.inj split)
    exact le_rfl

private theorem within_readLayout {size : Nat} {cs rest : List Char} {layout : List JoinedPiece}
    {pieces : List Char → Option (List JoinedPiece × List Char)}
    (inside : pieces (cs.drop 1) = some (layout, rest) →
      rest.length ≤ (cs.drop 1).length ∧ ∀ piece ∈ layout, piece.Within size)
    (found : readLayout pieces cs = some (layout, rest)) :
    rest.length ≤ cs.length ∧ ∀ piece ∈ layout, piece.Within size := by
  unfold readLayout at found
  split at found
  · obtain ⟨fewer, within⟩ := inside found
    exact ⟨fewer.trans (List.drop_suffix 1 cs).length_le, within⟩
  · obtain ⟨rfl, rfl⟩ := Prod.mk.inj (Option.some.inj found)
    exact ⟨le_rfl, nofun⟩

private theorem within_read {raw : Bool} {fuel depth size : Nat} {cs rest : List Char}
    {pieces : List JoinedPiece} (found : read raw fuel depth cs = some (pieces, rest))
    (fits : cs.length ≤ size) :
    rest.length ≤ cs.length ∧ ∀ piece ∈ pieces, piece.Within size := by
  induction fuel generalizing depth cs rest pieces with
  | zero => exact nomatch found
  | succ fuel ih =>
      obtain ⟨⟨written, behindPlain⟩, plain, found⟩ := Option.bind_eq_some_iff.mp found
      have afterPlain := length_splitPlain plain
      obtain ⟨content, -, found⟩ := Option.bind_eq_some_iff.mp found
      dsimp only at found
      split at found
      · obtain ⟨rfl, rfl⟩ := Prod.mk.inj (Option.some.inj found)
        exact ⟨afterPlain, List.forall_mem_singleton.mpr (.plain content)⟩
      rename_i opens
      split at found
      · exact nomatch found
      obtain ⟨⟨expression, behindExpression⟩, expressionSplit, found⟩ :=
        Option.bind_eq_some_iff.mp found
      obtain ⟨⟨conversion, behindConversion⟩, conversionSplit, found⟩ :=
        Option.bind_eq_some_iff.mp found
      obtain ⟨⟨layout, behindLayout⟩, layoutRead, found⟩ := Option.bind_eq_some_iff.mp found
      dsimp only at found
      split at found
      · exact nomatch found
      rename_i closes
      obtain ⟨⟨others, behind⟩, further, same⟩ := Option.bind_eq_some_iff.mp found
      obtain ⟨rfl, rfl⟩ := Prod.mk.inj (Option.some.inj same)
      obtain ⟨inner, rfl⟩ := List.head?_eq_some_iff.mp (not_not.mp opens)
      obtain ⟨afterwards, rfl⟩ := List.head?_eq_some_iff.mp (not_not.mp (not_or.mp closes).2)
      have afterExpression := length_splitExpression expressionSplit
      have afterEquals := length_splitEquals behindExpression
      have afterConversion : behindConversion.length ≤ (splitEquals behindExpression).2.length :=
        length_splitConversion conversionSplit
      simp only [List.drop_one, List.tail_cons, List.length_cons] at afterPlain afterExpression
      have inLayout : ('\x7d' :: afterwards).length ≤ behindConversion.length ∧
          ∀ piece ∈ layout, piece.Within size :=
        within_readLayout (fun found => ih found (by rw [List.length_drop]; omega)) layoutRead
      obtain ⟨afterLayout, layoutWithin⟩ := inLayout
      rw [List.length_cons] at afterLayout
      obtain ⟨afterOthers, othersWithin⟩ := ih further (by
        rw [List.drop_one, List.tail_cons]
        omega)
      rw [List.drop_one, List.tail_cons] at afterOthers
      change behind.length ≤ cs.length ∧ _
      refine ⟨by omega, ?_⟩
      simp only [List.forall_mem_cons]
      exact ⟨.plain content, .place _ _ (by omega) layoutWithin, othersWithin⟩

theorem within_ofText? {raw : Bool} {cs : List Char} {pieces : List JoinedPiece}
    (found : ofText? raw cs = some pieces) : ∀ piece ∈ pieces, piece.Within cs.length := by
  obtain ⟨⟨all, rest⟩, read, found⟩ := Option.bind_eq_some_iff.mp found
  dsimp only at found
  split at found
  · obtain rfl := Option.some.inj found
    exact (within_read read le_rfl).2
  · exact nomatch found

end JoinedPiece

end DerivedQuery
