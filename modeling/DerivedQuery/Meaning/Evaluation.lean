import DerivedQuery.Arguments
import DerivedQuery.Expression.Reader
import DerivedQuery.Meaning.Call
import DerivedQuery.Meaning.Part
import DerivedQuery.Meaning.Relation

/-!
# Evaluation

An expression means what its parts mean, put together from the left to the right. Names are looked
up among those of the function around the expression, then among those that the function was made
among, then among those of the module, and at last among the known ones.
Alternatives and choices only mean what they choose. Functions may call themselves, so that
evaluation goes a limited way down.
-/

set_option autoImplicit false

namespace DerivedQuery

/-- The names that a module defines, with what they mean. -/
abbrev ModuleNames := List (String × Meaning)

/-- The names that an expression can see besides the known ones. -/
structure Scope where
  /-- The names of the function around the expression. -/
  locals : List (String × Meaning) := []
  /-- The names that the function was made among. -/
  captured : List (String × Meaning) := []
  /-- The names of the module, to which those are added that are set outside of functions. -/
  globals : ModuleNames := []
  /-- Is there a function around the expression? -/
  inFunction : Bool := false
  /-- The names of the functions and gatherings around the expression, each with what divides it
  from names within it. -/
  path : String := ""

namespace Scope

/-- What a name means, if it is not a known one. -/
def get? (scope : Scope) (name : String) : Option Meaning :=
  Dictionary.get? scope.locals name <|> Dictionary.get? scope.captured name <|>
    Dictionary.get? scope.globals name

/-- Sets a name of the function around the expression, or outside of functions. -/
def assign (scope : Scope) (name : String) (meaning : Meaning) : Scope :=
  if scope.inFunction then { scope with locals := Dictionary.put name meaning scope.locals }
  else { scope with globals := Dictionary.put name meaning scope.globals }

/-- Sets a name while elements are gathered. -/
def hold (scope : Scope) (name : String) (meaning : Meaning) : Scope :=
  { scope with locals := Dictionary.put name meaning scope.locals }

/-- The scope after a gathering: the names that it set for each element mean what they meant before.
-/
def release (scope before : Scope) (names : List String) : Scope :=
  let kept := before.locals.filter fun entry => names.contains entry.1
  { scope with
    locals := (scope.locals.filter fun entry => !names.contains entry.1) ++ kept }

end Scope

/-- Something that is worked out within a scope. -/
abbrev Evaluation := StateT Scope (Except Failure)

namespace Evaluation

open Meaning

/-- How what lies within an expression is worked out. -/
structure Inner where
  /-- What an expression means. -/
  value : Expression → Evaluation Meaning
  /-- The elements of a meaning. -/
  elements : Meaning → Evaluation (List Meaning)

/-- Fails. -/
def fail {α : Type} (fault : ExpressionFault) : Evaluation α := throw (.expression fault)

/-- What a name means. -/
def lookUp (name : String) : Evaluation Meaning := do
  match (← get).get? name with
  | some meaning => pure meaning
  | none => ofName name

/-! ## Targets -/

/-- Sets the names of a target to the parts of a meaning. One name may take all the parts that the
others leave. Targets that are parts of other things take anything. -/
def setTarget : Expression → Meaning → Evaluation Unit
  | .identifier name, meaning => modify fun scope => scope.hold name meaning
  | .tuple targets, meaning | .list targets, meaning =>
      match meaning.elements? with
      | none =>
          if meaning.refusesIteration then throw (Failure.notIterable meaning.typeName)
          else fail (.misuse ("cannot unpack non-iterable " ++ meaning.typeName ++ " object"))
      | some items =>
          match meaning with
          | .unknown => setAll targets (List.replicate targets.length .unknown)
          | _ => setAll targets items
  | _, _ => pure ()
where
  /-- Sets targets to meanings, one by one. -/
  setAll (targets : List Expression) (items : List Meaning) : Evaluation Unit :=
    let isSpread : Expression → Bool
      | .spread _ => true
      | _ => false
    let single := targets.length - 1
    if targets.any isSpread then
      if items.length < single then
        fail (.badValue ("not enough values to unpack (expected at least " ++ toString single ++
          ", got " ++ toString items.length ++ ")"))
      else setEach (items.length - single) targets items
    else if items.length < targets.length then
      fail (.badValue ("not enough values to unpack (expected " ++ toString targets.length ++
        ", got " ++ toString items.length ++ ")"))
    else if targets.length < items.length then
      fail (.badValue ("too many values to unpack (expected " ++ toString targets.length ++ ")"))
    else setEach 0 targets items
  /-- Sets targets to as many meanings, where one target takes `extra` ones. -/
  setEach (extra : Nat) : List Expression → List Meaning → Evaluation Unit
    | [], _ => pure ()
    | .spread target :: rest, items => do
        setTarget target (.list (items.take extra))
        setEach extra rest (items.drop extra)
    | _, [] => pure ()
    | target :: rest, item :: items => do
        setTarget target item
        setEach extra rest items

/-! ## Gatherings -/

/-- Does something for each meaning, one after the other, and puts together what comes of it. -/
def forEach (items : List Meaning) (action : Meaning → Evaluation (List Meaning)) :
    Evaluation (List Meaning) :=
  match items with
  | [] => pure []
  | item :: rest => do
      let found ← action item
      let others ← forEach rest action
      pure (found ++ others)

/-- What a gathering yields: an item for each element of its sources where its conditions hold,
given the elements of its sources. -/
def gather (inner : Inner) (item : Evaluation (List Meaning)) :
    List GatheringClause → Evaluation (List Meaning)
  | [] => item
  | .only condition :: rest => do
      let holds ← inner.value condition
      if holds.isTrue then gather inner item rest else pure []
  | .each target source :: rest => do
      let meaning ← inner.value source
      let items ← inner.elements meaning
      forEach items fun element => do
        setTarget target element
        gather inner item rest

/-- The names that the clauses of a gathering set for each element. -/
def heldNames : List GatheringClause → List String
  | [] => []
  | .each target _ :: rest => (target.targetNames?.getD []) ++ heldNames rest
  | .only _ :: rest => heldNames rest

/-- Works something out within a gathering and then lets go of the names of its clauses. -/
def releasing {α : Type} (name : String) (clauses : List GatheringClause) (action : Evaluation α) :
    Evaluation α := do
  let before ← get
  set { before with path := before.path ++ name ++ "." }
  let found ← action
  modify fun scope => { scope.release before (heldNames clauses) with path := before.path }
  pure found

/-- The item that a gathering yields; an entry yields its key and its value. An item of a set and
the key of an entry have to be keys. -/
def gatheredItem (inner : Inner) (gathering : Gathering) : Expression → Evaluation (List Meaning)
  | .entry key value => do
      let keyMeaning ← inner.value key
      let valueMeaning ← inner.value value
      keyMeaning.checkKey
      pure [.tuple [keyMeaning, valueMeaning]]
  | item => do
      let meaning ← inner.value item
      if gathering = .set then meaning.checkKey
      pure [meaning]

/-- What a gathering yields for the elements of its first source. -/
def gatherFrom (inner : Inner) (gathering : Gathering) (item : Expression) (first : List Meaning) :
    List GatheringClause → Evaluation (List Meaning)
  | .each target _ :: rest =>
      forEach first fun element => do
        setTarget target element
        gather inner (gatheredItem inner gathering item) rest
  | _ => pure []

/-- What a path calls a gathering. -/
def gatheringName : Gathering → String
  | .list => "<listcomp>"
  | .set => "<setcomp>"
  | .dictionary => "<dictcomp>"
  | .generator => "<genexpr>"

/-- The elements of a meaning. Those of a gathering that has waited are worked out now, where the
names that it was made among are seen. -/
def elementsOf (inner : Inner) (meaning : Meaning) : Evaluation (List Meaning) := do
  match meaning with
  | .generator path first item clauses captured => do
      let outer ← get
      set { outer with
        locals := [], captured := captured, inFunction := true
        path := path ++ gatheringName .generator ++ "." }
      let found ← gatherFrom inner .generator item first clauses
      modify fun scope => { outer with globals := scope.globals }
      pure found
  | _ => meaning.elements

/-- The pairs that a gathering of a dictionary has yielded. -/
def entriesOf (items : List Meaning) : List (Meaning × Meaning) :=
  items.filterMap fun item =>
    match item with
    | .tuple [key, value] => some (key, value)
    | _ => none

/-- The elements of the first source of a gathering, which lies outside of the gathering. -/
def firstElements (inner : Inner) : List GatheringClause → Evaluation (List Meaning)
  | .each _ source :: _ => do
      let meaning ← inner.value source
      inner.elements meaning
  | _ => pure []

/-- What a gathering means. One that waits works out its first source only. -/
def gatherAll (inner : Inner) (gathering : Gathering) (item : Expression)
    (clauses : List GatheringClause) : Evaluation Meaning := do
  let first ← firstElements inner clauses
  match gathering with
  | .generator => do
      let scope ← get
      pure (.generator scope.path first item clauses (scope.locals ++ scope.captured))
  | _ => do
      let found ← releasing (gatheringName gathering) clauses
        (gatherFrom inner gathering item first clauses)
      match gathering with
      | .set => do
          let items ← distinct found
          pure (.set false items)
      | .dictionary => do
          let entries ← insertEntries [] (entriesOf found)
          pure (.dictionary entries)
      | _ => pure (.list found)

/-! ## Collections -/

/-- The elements that a spread meaning stands for. What cannot be spread is told by `refuse`. -/
def spreadElements (inner : Inner) (refuse : String → Failure) (meaning : Meaning) :
    Evaluation (List Meaning) := do
  let isSpreadable := meaning.elements?.isSome || meaning matches .generator _ _ _ _ _
  if meaning.refusesIteration then throw (Failure.notIterable meaning.typeName)
  if !isSpreadable then throw (refuse meaning.typeName)
  inner.elements meaning

/-- The fault of spreading something that has no elements. -/
def notSpreadable (typeName : String) : Failure :=
  .expression (.misuse ("Value after * must be an iterable, not " ++ typeName))

/-- The items of a collection, with the elements of spread ones. -/
def itemsOf (inner : Inner) : List Expression → Evaluation (List Meaning)
  | [] => pure []
  | .spread items :: rest => do
      let meaning ← inner.value items
      let found ← spreadElements inner notSpreadable meaning
      let others ← itemsOf inner rest
      pure (found ++ others)
  | item :: rest => do
      let meaning ← inner.value item
      let others ← itemsOf inner rest
      pure (meaning :: others)

/-- The members of a set behind those before them. Members wait for the others before they are put
together, up to the first spread one. -/
def membersFrom (inner : Inner) (before : List Meaning) (waiting : Bool) :
    List Expression → Evaluation (List Meaning)
  | [] => distinct before
  | .spread items :: rest => do
      let found ← (distinct before : Except Failure (List Meaning))
      let meaning ← inner.value items
      let more ← spreadElements inner Failure.notIterable meaning
      let all ← (distinct (found ++ more) : Except Failure (List Meaning))
      membersFrom inner all false rest
  | item :: rest => do
      let meaning ← inner.value item
      if waiting then membersFrom inner (before ++ [meaning]) true rest
      else do
        let all ← (insert before meaning : Except Failure (List Meaning))
        membersFrom inner all false rest

/-- The fault of spreading something that is no dictionary; the class of dictionaries has the look
of one. -/
def notMapping (meaning : Meaning) (message : String) : ExpressionFault :=
  match meaning with
  | .builtinClass "dict" | .applied false "dict" _ =>
      .misuse "unbound method dict.keys() needs an argument"
  | _ => .misuse message

/-- Puts waiting entries together, and then into those before them. -/
def addWaiting (before waiting : List (Meaning × Meaning)) :
    Except Failure (List (Meaning × Meaning)) := do
  let entries ← insertEntries [] waiting
  insertEntries before entries

/-- The entries of a dictionary behind those before them. Entries wait for the others before they
are put together, up to the next spread dictionary. -/
def entriesFrom (inner : Inner) (before waiting : List (Meaning × Meaning)) :
    List Expression → Evaluation (List (Meaning × Meaning))
  | [] => addWaiting before waiting
  | .spreadEntries entries :: rest => do
      let found ← (addWaiting before waiting : Except Failure (List (Meaning × Meaning)))
      let meaning ← inner.value entries
      match meaning with
      | .dictionary more => do
          let all ← (insertEntries found more : Except Failure (List (Meaning × Meaning)))
          entriesFrom inner all [] rest
      | .unknown => entriesFrom inner found [] rest
      | other =>
          fail (notMapping other (Text.quoted other.typeName ++ " object is not a mapping"))
  | .entry key value :: rest => do
      let keyMeaning ← inner.value key
      let valueMeaning ← inner.value value
      entriesFrom inner before (waiting ++ [(keyMeaning, valueMeaning)]) rest
  | _ :: rest => entriesFrom inner before waiting rest

/-! ## Texts -/

/-- Texts as one. -/
def joinTexts (pieces : List Meaning) : Meaning :=
  let content? : Meaning → Option String
    | .datum (.text content) => some content
    | _ => none
  match pieces.mapM content? with
  | some contents => text (String.join contents)
  | none => .unknown

/-- The pieces of a joined text. -/
def piecesOf (inner : Inner) : List Expression → Evaluation (List Meaning)
  | [] => pure []
  | piece :: rest => do
      let meaning ← inner.value piece
      let others ← piecesOf inner rest
      pure (meaning :: others)

/-! ## Comparisons -/

/-- Does each of some operands stand in its relation to the one before it? The first that does not
decides, and those behind it are not worked out. -/
def compare (inner : Inner) (left : Meaning) : List (Relation × Expression) → Evaluation Meaning
  | [] => pure left
  | [(relation, operand)] => do
      let right ← inner.value operand
      isRelated relation left right
  | (relation, operand) :: rest => do
      let right ← inner.value operand
      let holds ← (isRelated relation left right : Except Failure Meaning)
      if holds.isTrue then compare inner right rest else pure holds

/-! ## Calls -/

/-- The arguments of a call. -/
structure CallArguments where
  positional : List Meaning := []
  named : List (String × Meaning) := []
  /-- Something is spread that is not known. -/
  incomplete : Bool := false

/-- Adds an argument that is given by name to those before it. -/
def CallArguments.addNamed (callee : Meaning) (before : CallArguments) (name : String)
    (value : Meaning) : Except Failure CallArguments :=
  if Dictionary.has before.named name then
    .error (.expression (.misuse (callee.calleeName ++
      " got multiple values for keyword argument " ++ Text.quoted name)))
  else .ok { before with named := before.named ++ [(name, value)] }

/-- Adds the entries of a dictionary to the arguments that are given by name. -/
def CallArguments.addEntries (callee : Meaning) (before : CallArguments) :
    List (Meaning × Meaning) → Except Failure CallArguments
  | [] => .ok before
  | (.datum (.text name), value) :: rest => do
      let more ← before.addNamed callee name value
      more.addEntries callee rest
  | _ => .error (.expression (.misuse "keywords must be strings"))

/-- Adds several arguments that are given by name. -/
def CallArguments.addAllNamed (callee : Meaning) (before : CallArguments)
    (entries : List (String × Meaning)) : Except Failure CallArguments :=
  entries.foldlM (fun found entry => found.addNamed callee entry.1 entry.2) before

/-- The arguments of a call that are given by name, behind those before them. They wait for each
other up to the next spread dictionary. -/
def namedArguments (inner : Inner) (callee : Meaning) (before : CallArguments)
    (waiting : List (String × Meaning)) : List Expression → Evaluation CallArguments
  | [] => before.addAllNamed callee waiting
  | .named name value :: rest => do
      let meaning ← inner.value value
      namedArguments inner callee before (waiting ++ [(name, meaning)]) rest
  | .spreadEntries entries :: rest => do
      let found ← (before.addAllNamed callee waiting : Except Failure CallArguments)
      let meaning ← inner.value entries
      match meaning with
      | .dictionary more => do
          let all ← (found.addEntries callee more : Except Failure CallArguments)
          namedArguments inner callee all [] rest
      | .unknown => namedArguments inner callee { found with incomplete := true } [] rest
      | other =>
          fail (notMapping other (callee.calleeName ++
            " argument after ** must be a mapping, not " ++ other.typeName))
  | _ :: rest => namedArguments inner callee before waiting rest

/-- Is an argument given by its position? -/
def isPositional : Expression → Bool
  | .named _ _ | .spreadEntries _ => false
  | _ => true

/-- The arguments of a call: those given by position, and then those given by name. If all of those
given by position are spread from one value, it is spread last. -/
def argumentsOf (inner : Inner) (callee : Meaning) (arguments : List Expression) :
    Evaluation CallArguments := do
  match arguments.filter isPositional with
  | [.spread items] => do
      let refuse (typeName : String) : Failure :=
        .expression (.misuse (callee.calleeName ++
          " argument after * must be an iterable, not " ++ typeName))
      let meaning ← inner.value items
      let found ← namedArguments inner callee {} [] arguments
      let positional ← spreadElements inner refuse meaning
      pure { found with positional }
  | given => do
      let positional ← itemsOf inner given
      namedArguments inner callee { positional } [] arguments

/-- What a function that an expression describes yields for some arguments. -/
def callClosure (inner : Inner) (path : String) (parameters : List Parameter)
    (fallbacks : List (String × Meaning)) (suspends : Bool) (body : Expression)
    (captured : List (String × Meaning)) (given : CallArguments) : Evaluation Meaning := do
  let taken ← ((TakenArguments.take parameters given.positional given.named).mapError
    (Failure.arguments path) : Except Failure (TakenArguments Meaning))
  let collected := parameters.filterMap fun parameter =>
    match parameter.kind with
    | .variadic => some (parameter.name, Meaning.tuple taken.rest)
    | .keywordVariadic =>
        some (parameter.name,
          .dictionary (taken.others.map fun entry => (text entry.1, entry.2)))
    | _ => none
  if suspends then pure .unknown
  else do
    let outer ← get
    set { outer with
      locals := taken.values ++ collected ++ fallbacks, captured := captured, inFunction := true
      path := path ++ ".<locals>." }
    let found ← inner.value body
    modify fun scope => { outer with globals := scope.globals }
    pure found

/-- The functions and classes that ask for the elements of an argument. -/
def consumerNames : List String :=
  ["all", "any", "dict", "enumerate", "frozenset", "list", "max", "min", "set", "sorted", "sum",
    "tuple", "zip"]

/-- An argument whose elements are asked for, with these elements if it has waited. -/
def consumed (inner : Inner) (argument : Meaning) : Evaluation Meaning := do
  match argument with
  | .generator _ _ _ _ _ => do
      let items ← inner.elements argument
      pure (.list items)
  | other => pure other

/-- Arguments whose elements are asked for, with these elements if they have waited. -/
def consumedAll (inner : Inner) : List Meaning → Evaluation (List Meaning)
  | [] => pure []
  | argument :: rest => do
      let found ← consumed inner argument
      let others ← consumedAll inner rest
      pure (found :: others)

/-- What a call yields. A text that is to be evaluated is an expression of its own. -/
def call (inner : Inner) (callee : Meaning) (given : CallArguments) : Evaluation Meaning := do
  match callee with
  | .closure path parameters fallbacks suspends body captured =>
      if given.incomplete then pure .unknown
      else callClosure inner path parameters fallbacks suspends body captured given
  | .function "eval" =>
      match given.positional, given.named with
      | [.datum (.text content)], [] =>
          let spelled := String.ofList (content.toList.dropWhile fun c => c = ' ' ∨ c = '\t')
          match Expression.ofWholeText? spelled with
          | some expression => inner.value expression
          | none => fail (.unreadable content)
      | _, _ => callee.invoke given.positional given.named
  | .function name | .builtinClass name => do
      let consumes := consumerNames.contains name
      let positional ←
        if consumes then consumedAll inner given.positional else pure given.positional
      if given.incomplete then pure .unknown else callee.invoke positional given.named
  | .method _ "join" => do
      let positional ← consumedAll inner given.positional
      if given.incomplete then pure .unknown else callee.invoke positional given.named
  | _ =>
      if given.incomplete then pure .unknown
      else callee.invoke given.positional given.named

/-! ## Expressions -/

/-- The meanings of what stands in for optional arguments. -/
def fallbacksOf (inner : Inner) :
    List (String × Expression) → Evaluation (List (String × Meaning))
  | [] => pure []
  | (name, value) :: rest => do
      let meaning ← inner.value value
      let others ← fallbacksOf inner rest
      pure ((name, meaning) :: others)

/-- What an expression means, given the meanings of the expressions within it. -/
def step (inner : Inner) : Expression → Evaluation Meaning
  | .identifier name => lookUp name
  | .datum value => pure (.datum value)
  | .imaginary size =>
      let shown := { Datum.decimalNotation with wholeSuffix := "" }.doubleText size
      pure (.object "complex" (shown ++ "j"))
  | .ellipsis => pure .ellipsis
  | .joined pieces => joinTexts <$> piecesOf inner pieces
  | .shown value conversion layout => do
      let meaning ← inner.value value
      let pieces ← piecesOf inner layout
      match joinTexts pieces with
      | .datum (.text content) => shownText meaning conversion content
      | _ => pure .unknown
  | .tuple items => .tuple <$> itemsOf inner items
  | .list items => .list <$> itemsOf inner items
  | .set items => .set false <$> membersFrom inner [] true items
  | .dictionary items => .dictionary <$> entriesFrom inner [] [] items
  | .member base name => do
      let meaning ← inner.value base
      meaning.member name
  | .part base index => do
      let meaning ← inner.value base
      let given ← inner.value index
      meaning.part given
  | .slice first last step => do
      let start ← inner.value first
      let stop ← inner.value last
      let stride ← inner.value step
      pure (.slice start stop stride)
  | .call callee arguments => do
      let meaning ← inner.value callee
      let given ← argumentsOf inner meaning arguments
      call inner meaning given
  | .signed sign operand => do
      let meaning ← inner.value operand
      Meaning.signed sign meaning
  | .negation operand => do
      let meaning ← inner.value operand
      pure (match meaning with | .unknown => .unknown | _ => truth !meaning.isTrue)
  | .operation operation left right => do
      let first ← inner.value left
      let second ← inner.value right
      operate operation first second
  | .comparison first others => do
      let meaning ← inner.value first
      compare inner meaning others
  | .both left right => do
      let meaning ← inner.value left
      if meaning.isTrue then inner.value right else pure meaning
  | .either left right => do
      let meaning ← inner.value left
      if meaning.isTrue then pure meaning else inner.value right
  | .choice condition positive negative => do
      let holds ← inner.value condition
      inner.value (if holds.isTrue then positive else negative)
  | .function parameters fallbacks suspends body => do
      let found ← fallbacksOf inner fallbacks
      let scope ← get
      let path := scope.path ++ "<lambda>"
      pure (.closure path parameters found suspends body (scope.locals ++ scope.captured))
  | .gathered gathering item clauses => gatherAll inner gathering item clauses
  | .assigned name value => do
      let meaning ← inner.value value
      modify fun scope => scope.assign name meaning
      pure meaning
  | .entry _ value | .spread value | .spreadEntries value | .named _ value => inner.value value

/-- How everything is worked out. Expressions lie within each other, or are called by each other,
less than `fuel` deep. -/
def ofDepth : Nat → Inner
  | 0 => ⟨fun _ => fail .tooDeep, fun _ => fail .tooDeep⟩
  | fuel + 1 =>
      let inner := ofDepth fuel
      ⟨step inner, elementsOf inner⟩

end Evaluation

namespace Meaning

/-- How deep functions may call each other while an expression is evaluated. -/
def deepest : Nat := 5000

/-- What an expression by itself means; `size` is a bound of how deep its parts lie. -/
def ofExpression (size : Nat) (expression : Expression) : Evaluation Meaning :=
  (Evaluation.ofDepth (size + deepest)).value expression

end Meaning

end DerivedQuery
