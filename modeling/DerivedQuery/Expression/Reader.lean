import DerivedQuery.Expression
import DerivedQuery.Expression.Joined

/-!
# Reading expressions

A reader takes tokens from the head of those that are left. Operations are read by levels, from the
loosest to the tightest, and every place where an expression may contain others of a kind asks for
one of that kind. A name must not be set where it is gathered or within a source of elements, and
only functions may suspend their work.
-/

set_option autoImplicit false

namespace DerivedQuery

/-- What a reader knows. -/
structure ReaderState where
  /-- The tokens that are left. -/
  tokens : List Token
  /-- A number that is greater than that of the tokens. -/
  limit : Nat
  /-- The names that have been set within the function that is being read, latest first. -/
  assigned : List String
  /-- How many names have been set so far. -/
  assignments : Nat
  /-- How often the function that is being read suspends its work; outside of functions nothing
  does. -/
  suspensions : Option Nat

/-- A reader of something. -/
abbrev Reader := StateT ReaderState Option

namespace Reader

/-- The kinds of expressions that other expressions contain. -/
inductive Kind where
  | expression
  | inversion
  | factor
  | primary
  deriving DecidableEq, Repr

/-- Readers of the kinds of expressions. -/
abbrev Inner := Kind → Reader Expression

/-- The tokens that are left. -/
def tokens : Reader (List Token) := do pure (← get).tokens

/-- A number that is greater than that of the tokens. -/
def limit : Reader Nat := do pure (← get).limit

/-- Drops tokens. -/
def drop (count : Nat) : Reader Unit :=
  modify fun state => { state with tokens := state.tokens.drop count }

/-- Is a mark next? -/
def isNext (mark : String) : Reader Bool := do pure ((← tokens).head? == some (.symbol mark))

/-- Takes a mark if it is next. -/
def skip (mark : String) : Reader Bool := do
  let found ← isNext mark
  if found then drop 1
  pure found

/-- Takes a mark, which has to be next. -/
def expect (mark : String) : Reader Unit := do
  let found ← skip mark
  if !found then failure

/-- Takes a name, which has to be next. -/
def name : Reader String := do
  match (← tokens).head? with
  | some (.name word) => do
      drop 1
      pure word
  | _ => failure

/-- Takes a name that is to be set. -/
def settableName : Reader String := do
  let word ← name
  if word = "__debug__" then failure else pure word

/-- The names that have marks of a certain text behind them: does one come next? -/
def isNameBefore (mark : String) : Reader Bool := do
  match ← tokens with
  | .name _ :: .symbol found :: _ => pure (found == mark)
  | _ => pure false

/-! ## Items -/

/-- Items with commas between them up to a closing mark, and whether a comma follows the last one.
There are fewer items than `bound`. -/
def items (item : Reader Expression) (closing : String) :
    Nat → Reader (List Expression × Bool)
  | 0 => failure
  | bound + 1 => do
      if ← isNext closing then pure ([], false)
      else do
        let first ← item
        if ← skip "," then do
          let (others, _) ← items item closing bound
          pure (first :: others, true)
        else pure ([first], false)

/-- Items with commas between them up to a closing mark, which is taken, and whether a comma follows
the last one. -/
def itemsUpTo (item : Reader Expression) (closing : String) : Reader (List Expression × Bool) := do
  let found ← items item closing (← limit)
  expect closing
  pure found

/-- Items in brackets: a single one without a comma stands for itself. -/
def grouped : List Expression → Bool → Expression
  | [item], false => item
  | items, _ => .tuple items

/-! ## Operations -/

/-- An operation of a level, if one is next. -/
def operation? (level : List Operation) : Reader (Option Operation) := do
  match (← tokens).head? with
  | some (.symbol mark) =>
      match level.find? fun operation => operation.mark == mark with
      | some operation => do
          drop 1
          pure (some operation)
      | none => pure none
  | _ => pure none

/-- The operations of a level that follow an operand, applied from the left. There are fewer of them
than `bound`. -/
def operations (level : List Operation) (operand : Reader Expression) :
    Nat → Expression → Reader Expression
  | 0, _ => failure
  | bound + 1, left => do
      match ← operation? level with
      | none => pure left
      | some operation => do
          let right ← operand
          operations level operand bound (.operation operation left right)

/-- Operands with the operations of some levels between them. -/
def leveled (factor : Reader Expression) : List (List Operation) → Reader Expression
  | [] => factor
  | level :: tighter => do
      let first ← leveled factor tighter
      operations level (leveled factor tighter) (← limit) first

/-- An operand of a comparison. -/
def operand (inner : Inner) : Reader Expression := leveled (inner .factor) Operation.levels

/-- A relation, if one is next. -/
def relation? : Reader (Option Relation) := do
  match ← tokens with
  | .symbol "not" :: .symbol "in" :: _ => do
      drop 2
      pure (some .notAmong)
  | .symbol "is" :: .symbol "not" :: _ => do
      drop 2
      pure (some .distinct)
  | .symbol "is" :: _ => do
      drop 1
      pure (some .identical)
  | .symbol mark :: _ =>
      match Relation.simple.find? fun relation => relation.mark == mark with
      | some relation => do
          drop 1
          pure (some relation)
      | none => pure none
  | _ => pure none

/-- The relations that follow an operand with their other operands. There are fewer of them than
`bound`. -/
def relations (operand : Reader Expression) : Nat → Reader (List (Relation × Expression))
  | 0 => failure
  | bound + 1 => do
      match ← relation? with
      | none => pure []
      | some relation => do
          let right ← operand
          let others ← relations operand bound
          pure ((relation, right) :: others)

/-- A comparison, or a single operand. -/
def comparison (inner : Inner) : Reader Expression := do
  let first ← operand inner
  let others ← relations (operand inner) (← limit)
  pure (if others.isEmpty then first else .comparison first others)

/-- Operands with a word between them, combined from the left. There are fewer of them than `bound`.
-/
def chain (word : String) (combine : Expression → Expression → Expression)
    (operand : Reader Expression) : Nat → Reader Expression
  | 0 => failure
  | bound + 1 => do
      let first ← operand
      if ← skip word then do
        let others ← chain word combine operand bound
        pure (combine first others)
      else pure first

/-- Alternatives of which the first that holds counts. -/
def disjunction (inner : Inner) : Reader Expression := do
  let bound ← limit
  chain "or" .either (chain "and" .both (inner .inversion) bound) bound

/-! ## Gatherings -/

/-- A name that is set to a value. -/
def assignment (inner : Inner) : Reader Expression := do
  let target ← settableName
  expect ":="
  let value ← inner .expression
  modify fun state => { state with
    assigned := target :: state.assigned, assignments := state.assignments + 1 }
  pure (.assigned target value)

/-- An expression, or a name that is set to one. -/
def maybeAssigned (inner : Inner) : Reader Expression := do
  if ← isNameBefore ":=" then assignment inner else inner .expression

/-- An item of a collection: an expression or all elements of an operand. -/
def item (inner : Inner) : Reader Expression := do
  if ← skip "*" then do
    let items ← operand inner
    pure (.spread items)
  else maybeAssigned inner

/-- Reads something that sets no name. -/
def withoutAssignment (reader : Reader Expression) : Reader Expression := do
  let before := (← get).assignments
  let found ← reader
  if (← get).assignments = before then pure found else failure

/-- Reads something that does not suspend the function around it. -/
def withoutSuspension (reader : Reader Expression) : Reader Expression := do
  let before := (← get).suspensions
  let found ← reader
  if (← get).suspensions = before then pure found else failure

/-- The conditions that follow a source. There are fewer of them than `bound`. -/
def conditions (inner : Inner) : Nat → Reader (List GatheringClause)
  | 0 => failure
  | bound + 1 => do
      if ← skip "if" then do
        let condition ← withoutSuspension (disjunction inner)
        let others ← conditions inner bound
        pure (.only condition :: others)
      else pure []

/-- The targets that the elements of a source are set to. -/
def targets (inner : Inner) : Reader Expression := do
  let starred : Reader Expression := do
    if ← skip "*" then do
      let rest ← inner .primary
      pure (.spread rest)
    else inner .primary
  let (found, comma) ← itemsUpTo starred "in"
  match found, comma with
  | [], _ | [.spread _], false => failure
  | _, _ => pure (grouped found comma)

/-- The clauses of a gathering. The `first` source is read outside of the gathering. There are fewer
clauses than `bound`. -/
def clauses (inner : Inner) (first : Bool) : Nat → Reader (List GatheringClause)
  | 0 => failure
  | bound + 1 => do
      if ← skip "for" then do
        let found ← targets inner
        let source ← withoutAssignment <|
          if first then disjunction inner else withoutSuspension (disjunction inner)
        let only ← conditions inner (← limit)
        let others ← clauses inner false bound
        pure (.each found source :: only ++ others)
      else pure []

/-- The names that the clauses of a gathering set. Fails where one of them cannot be set. -/
def namesOfClauses? : List GatheringClause → Option (List String)
  | [] => some []
  | .each target _ :: rest => do
      let names ← target.targetNames?
      let others ← namesOfClauses? rest
      some (names ++ others)
  | .only _ :: rest => namesOfClauses? rest

/-- A gathering whose item has been read already, from the state `before` on. No name that the
gathering sets for each element is set within it by an assignment. -/
def gathering (inner : Inner) (kind : Gathering) (before : ReaderState) (item : Expression) :
    Reader Expression := do
  if (← get).suspensions ≠ before.suspensions then failure
  let found ← clauses inner true (← limit)
  let assigned := (← get).assigned
  let fresh := assigned.take (assigned.length - before.assigned.length)
  match namesOfClauses? found with
  | some names =>
      if names.any fresh.contains then failure else pure (.gathered kind item found)
  | none => failure

/-! ## Functions -/

/-- What follows a parameter: a comma, or the end of the parameters. -/
def parameterEnd : Reader Unit := do
  if !(← skip ",") && !(← isNext ":") then failure

/-- The parameters of a function behind those that have been read, and what stands in for optional
ones. There are fewer of them than `bound`; `closed` says whether no more of them are given by
position only, and `named` whether all of them are given by name only. -/
def parameters (inner : Inner) : Nat → List Parameter → Bool → Bool →
    Reader (List Parameter × List (String × Expression))
  | 0, _, _, _ => failure
  | bound + 1, found, closed, named => do
      if ← isNext ":" then pure (found, [])
      else if ← skip "**" then do
        let word ← settableName
        parameterEnd
        if ← isNext ":" then pure (found ++ [⟨word, .keywordVariadic, false⟩], []) else failure
      else if ← skip "*" then do
        if named then failure
        if ← skip "," then do
          match (← tokens).head? with
          | some (.name _) => parameters inner bound found closed true
          | _ => failure
        else do
          let word ← settableName
          parameterEnd
          parameters inner bound (found ++ [⟨word, .variadic, false⟩]) closed true
      else if ← skip "/" then do
        if closed || named || found.isEmpty then failure
        parameterEnd
        let before := found.map fun parameter => { parameter with kind := .positionalOnly }
        parameters inner bound before true named
      else do
        let word ← settableName
        let fallback ←
          if ← skip "=" then some <$> inner .expression else pure none
        parameterEnd
        let isOptional := fallback.isSome
        if !named && !isOptional && found.any Parameter.isOptional then failure
        let kind : ParameterKind := if named then .keywordOnly else .positional
        let (all, fallbacks) ←
          parameters inner bound (found ++ [⟨word, kind, isOptional⟩]) closed named
        pure (all, (fallback.map fun value => (word, value)).toList ++ fallbacks)

/-- A function behind its word. What it does with names and suspensions stays within it. -/
def function (inner : Inner) : Reader Expression := do
  let (found, fallbacks) ← parameters inner (← limit) [] false false
  expect ":"
  if ¬ (found.map Parameter.name).Nodup then failure
  let outer ← get
  set { outer with assigned := [], suspensions := some 0 }
  let body ← inner .expression
  let within ← get
  set { within with assigned := outer.assigned, suspensions := outer.suspensions }
  pure (.function found fallbacks (within.suspensions != some 0) body)

/-- A suspension of a function behind its word; what it is suspended with does not matter. -/
def suspension (inner : Inner) : Reader Expression := do
  if ← skip "from" then discard (inner .expression)
  else do
    let starred : Reader Expression := do
      if ← skip "*" then operand inner else inner .expression
    let (found, comma) ← items starred ")" (← limit)
    if comma && found.isEmpty then failure
  match (← get).suspensions with
  | some count => do
      modify fun state => { state with suspensions := some (count + 1) }
      pure .null
  | none => failure

/-! ## Parts and calls -/

/-- An index between square brackets: an expression, all elements of one, or the ends and the step
of a slice. -/
def index (inner : Inner) : Reader Expression := do
  if ← skip "*" then do
    let items ← inner .expression
    pure (.spread items)
  else do
    let given : Reader Expression := do
      if (← isNext ":") || (← isNext "]") || (← isNext ",") then pure .null else inner .expression
    if ← isNameBefore ":=" then assignment inner
    else do
      let first ← if ← isNext ":" then pure .null else inner .expression
      if ← skip ":" then do
        let last ← given
        let step ← if ← skip ":" then given else pure .null
        pure (.slice first last step)
      else pure first

/-- What the arguments of a call so far allow behind them. -/
structure ArgumentState where
  /-- Nothing has been given by name or spread from a dictionary. -/
  positional : Bool := true
  /-- No dictionary has been spread. -/
  ordered : Bool := true
  names : List String := []

/-- The arguments of a call up to its end. There are fewer of them than `bound`. Values stand before
values by name, and behind a spread dictionary there are only values by name; every name comes once.
-/
def arguments (inner : Inner) : Nat → ArgumentState → Reader (List Expression)
  | 0, _ => failure
  | bound + 1, state => do
      let goOn (state : ArgumentState) (argument : Expression) : Reader (List Expression) := do
        if ← skip "," then do
          let others ← arguments inner bound state
          pure (argument :: others)
        else do
          expect ")"
          pure [argument]
      if ← skip ")" then pure []
      else if ← skip "**" then do
        let entries ← inner .expression
        goOn { state with positional := false, ordered := false } (.spreadEntries entries)
      else if ← skip "*" then do
        if !state.ordered then failure
        let items ← inner .expression
        goOn state (.spread items)
      else if ← isNameBefore "=" then do
        let word ← settableName
        expect "="
        if state.names.contains word then failure
        let value ← inner .expression
        goOn { state with positional := false, names := word :: state.names } (.named word value)
      else do
        if !state.positional then failure
        let value ← maybeAssigned inner
        goOn state value

/-- The arguments of a call behind its opening bracket. A single gathering needs no brackets of its
own. -/
def callArguments (inner : Inner) : Reader (List Expression) := do
  let before ← get
  if (← isNext "*") || (← isNext "**") || (← isNext ")") || (← isNameBefore "=") then
    arguments inner (← limit) {}
  else do
    let first ← maybeAssigned inner
    if ← isNext "for" then do
      let gathered ← gathering inner .generator before first
      expect ")"
      pure [gathered]
    else if ← skip "," then do
      let others ← arguments inner (← limit) {}
      pure (first :: others)
    else do
      expect ")"
      pure [first]

/-- Attributes, parts and calls that follow an expression. There are fewer of them than `bound`. -/
def suffixes (inner : Inner) : Nat → Expression → Reader Expression
  | 0, _ => failure
  | bound + 1, base => do
      if ← skip "." then do
        let word ← name
        suffixes inner bound (.member base word)
      else if ← skip "[" then do
        let (found, comma) ← itemsUpTo (index inner) "]"
        match found, comma with
        | [], _ => failure
        | [.spread items], false =>
            suffixes inner bound (.part base (.tuple [.spread items]))
        | _, _ => suffixes inner bound (.part base (grouped found comma))
      else if ← skip "(" then do
        let found ← callArguments inner
        suffixes inner bound (.call base found)
      else pure base

/-! ## Single values -/

/-- What is in round brackets behind the opening one. -/
def group (inner : Inner) : Reader Expression := do
  let before ← get
  if ← skip ")" then pure (.tuple [])
  else if ← skip "yield" then do
    let found ← suspension inner
    expect ")"
    pure found
  else do
    let first ← item inner
    let isSpread := first matches .spread _
    if !isSpread && (← isNext "for") then do
      let gathered ← gathering inner .generator before first
      expect ")"
      pure gathered
    else if ← skip "," then do
      let (others, _) ← itemsUpTo (item inner) ")"
      pure (.tuple (first :: others))
    else do
      expect ")"
      if isSpread then failure else pure first

/-- What is in square brackets behind the opening one. -/
def list (inner : Inner) : Reader Expression := do
  let before ← get
  if ← skip "]" then pure (.list [])
  else do
    let first ← item inner
    let isSpread := first matches .spread _
    if !isSpread && (← isNext "for") then do
      let gathered ← gathering inner .list before first
      expect "]"
      pure gathered
    else if ← skip "," then do
      let (others, _) ← itemsUpTo (item inner) "]"
      pure (.list (first :: others))
    else do
      expect "]"
      pure (.list [first])

/-- An item of a dictionary: an entry or all entries of an operand. -/
def dictionaryItem (inner : Inner) : Reader Expression := do
  if ← skip "**" then do
    let entries ← operand inner
    pure (.spreadEntries entries)
  else do
    let key ← inner .expression
    expect ":"
    let value ← inner .expression
    pure (.entry key value)

/-- What is in braces behind the opening one: entries of a dictionary or items of a set. -/
def braced (inner : Inner) : Reader Expression := do
  let before ← get
  let closing := "\x7d"
  if ← skip closing then pure (.dictionary [])
  else if ← isNext "**" then do
    let (found, _) ← itemsUpTo (dictionaryItem inner) closing
    pure (.dictionary found)
  else do
    let mayBeKey := !(← isNameBefore ":=")
    let first ← item inner
    let isSpread := first matches .spread _
    let isKey ← isNext ":"
    if isKey && mayBeKey && !isSpread then do
      expect ":"
      let value ← inner .expression
      let entry := Expression.entry first value
      if ← isNext "for" then do
        let gathered ← gathering inner .dictionary before entry
        expect closing
        pure gathered
      else if ← skip "," then do
        let (others, _) ← itemsUpTo (dictionaryItem inner) closing
        pure (.dictionary (entry :: others))
      else do
        expect closing
        pure (.dictionary [entry])
    else if !isSpread && (← isNext "for") then do
      let gathered ← gathering inner .set before first
      expect closing
      pure gathered
    else if ← skip "," then do
      let (others, _) ← itemsUpTo (item inner) closing
      pure (.set (first :: others))
    else do
      expect closing
      pure (.set [first])

/-- The expression of a place in a text, which is read as if it stood in brackets. -/
def place (inner : Inner) (content : List Char) : Reader Expression := do
  match Token.ofText? ("(" ++ String.ofList content ++ ")") with
  | none => failure
  | some found => do
      let rest ← tokens
      modify fun state =>
        { state with tokens := found, limit := max state.limit (found.length + 1) }
      let expression ← inner .primary
      if !(← tokens).isEmpty then failure
      modify fun state => { state with tokens := rest }
      pure expression

mutual

/-- A piece of a text with places: texts and values. -/
def joinedPiece (inner : Inner) : JoinedPiece → Reader (List Expression)
  | .plain content => pure [.datum (.text (String.ofList content))]
  | .place content label conversion layout => do
      let value ← place inner content
      let pieces ← joinedPieces inner layout
      pure [.datum (.text (String.ofList label)), .shown value conversion pieces]

/-- Pieces of a text with places. -/
def joinedPieces (inner : Inner) : List JoinedPiece → Reader (List Expression)
  | [] => pure []
  | piece :: rest => do
      let found ← joinedPiece inner piece
      let others ← joinedPieces inner rest
      pure (found ++ others)

end

/-- The texts that are next, one after the other. There are fewer of them than `bound`. -/
def texts (inner : Inner) : Nat → Reader (List Expression)
  | 0 => failure
  | bound + 1 => do
      match (← tokens).head? with
      | some (.text content) => do
          drop 1
          let others ← texts inner bound
          pure (.datum (.text (String.ofList content)) :: others)
      | some (.template raw content) => do
          drop 1
          match JoinedPiece.ofText? raw content with
          | none => failure
          | some pieces => do
              let found ← joinedPieces inner pieces
              let others ← texts inner bound
              pure (found ++ others)
      | some (.bytes _) => failure
      | _ => pure []

/-- The byte strings that are next, as one. There are fewer of them than `bound`. -/
def byteStrings : Nat → Reader (List UInt8)
  | 0 => failure
  | bound + 1 => do
      match (← tokens).head? with
      | some (.bytes content) => do
          drop 1
          let others ← byteStrings bound
          pure (content ++ others)
      | some (.text _) | some (.template _ _) => failure
      | _ => pure []

/-- Texts one after the other as one expression: without places they are a single text. -/
def joined (pieces : List Expression) : Expression :=
  let plain? : Expression → Option String
    | .datum (.text content) => some content
    | _ => none
  match pieces.mapM plain? with
  | some contents => .datum (.text (String.join contents))
  | none => .joined pieces

/-- A value that is not made by an operation. -/
def single (inner : Inner) : Reader Expression := do
  let left ← tokens
  let bound ← limit
  let found (expression : Expression) : Reader Expression := do
    drop 1
    pure expression
  match left.head? with
  | none => failure
  | some (.name word) => found (.identifier word)
  | some (.integer n) => found (.datum (.integer n))
  | some (.real d) => found (.datum (.double d))
  | some (.imaginary size) => found (.imaginary size)
  | some (.text _) | some (.template _ _) => joined <$> texts inner bound
  | some (.bytes _) => do
      let content ← byteStrings bound
      pure (.datum (.bytes content))
  | some (.symbol mark) => do
      drop 1
      match mark with
      | "None" => pure .null
      | "True" => pure (.datum (.boolean true))
      | "False" => pure (.datum (.boolean false))
      | "..." => pure .ellipsis
      | "(" => group inner
      | "[" => list inner
      | "\x7b" => braced inner
      | _ => failure

/-! ## All kinds -/

/-- A sign and what it is before, or a power. -/
def factor (inner : Inner) : Reader Expression := do
  let signs := [Sign.plus, Sign.minus, Sign.complement]
  match (← tokens).head? with
  | some (.symbol mark) =>
      match signs.find? fun sign => sign.mark == mark with
      | some sign => do
          drop 1
          let operand ← inner .factor
          pure (.signed sign operand)
      | none => power
  | _ => power
where
  /-- A value, raised to a power or not. -/
  power : Reader Expression := do
    let base ← inner .primary
    if ← skip "**" then do
      let exponent ← inner .factor
      pure (.operation .power base exponent)
    else pure base

/-- A choice between two values, or a disjunction. -/
def choice (inner : Inner) : Reader Expression := do
  let positive ← disjunction inner
  if ← skip "if" then do
    let condition ← disjunction inner
    expect "else"
    let negative ← inner .expression
    pure (.choice condition positive negative)
  else pure positive

/-- An expression of a kind, given readers of the expressions within it. -/
def step (inner : Inner) : Kind → Reader Expression
  | .expression => do
      if ← skip "lambda" then function inner else choice inner
  | .inversion => do
      if ← skip "not" then do
        let operand ← inner .inversion
        pure (.negation operand)
      else comparison inner
  | .factor => factor inner
  | .primary => do
      let base ← single inner
      suffixes inner (← limit) base

/-- An expression of a kind. Expressions lie within each other less than `fuel` deep. -/
def read : Nat → Inner
  | 0, _ => failure
  | fuel + 1, kind => step (read fuel) kind

/-- Expressions with commas between them up to the end, and whether a comma follows the last one.
There are fewer of them than `bound`. -/
def sequence (item : Reader Expression) : Nat → Reader (List Expression × Bool)
  | 0 => failure
  | bound + 1 => do
      let first ← item
      if ← skip "," then
        if (← tokens).isEmpty then pure ([first], true)
        else do
          let (others, _) ← sequence item bound
          pure (first :: others, true)
      else if (← tokens).isEmpty then pure ([first], false)
      else failure

end Reader

namespace Expression

/-- The expression that tokens are, where expressions lie within each other less than `fuel` deep.
Expressions with commas between them are a sequence. -/
def ofTokens? (fuel : Nat) (tokens : List Token) : Option Expression := do
  let item := Reader.read fuel .expression
  let ((items, comma), _) ← (Reader.sequence item (tokens.length + 1)).run
    ⟨tokens, tokens.length + 1, [], 0, none⟩
  some (Reader.grouped items comma)

/-- How deep the expressions of a text may lie within each other at most: no character opens more
than four of them. -/
def depthBound (text : String) : Nat := 4 * text.length + 4

/-- The expression that a text goes on with. -/
def ofText? (text : String) : Option Expression := do
  let tokens ← Token.ofText? text
  ofTokens? (depthBound text) tokens

/-- The expression that a text is by itself. -/
def ofWholeText? (text : String) : Option Expression := do
  let tokens ← Token.ofWholeText? text
  ofTokens? (depthBound text) tokens

end Expression

end DerivedQuery
