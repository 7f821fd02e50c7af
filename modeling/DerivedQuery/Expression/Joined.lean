import DerivedQuery.Expression.Token

/-!
# Joined texts

A text with places for values is a sequence of plain pieces and places. A place stands between
braces; two braces are one of the text itself. A place holds an expression, which an equals sign
shows before its value, and may say how the value is written and how it is laid out; the layout may
have places of its own, but no deeper ones.
-/

set_option autoImplicit false

namespace DerivedQuery

/-- A piece of a text with places for values. -/
inductive JoinedPiece where
  | plain (content : List Char)
  /-- The text of an expression with the label before its value, the letter that says how the value
  is written, and its layout. -/
  | place (expression label : List Char) (conversion : Option Char) (layout : List JoinedPiece)
  deriving Repr

namespace JoinedPiece

/-- A brace. -/
def isBrace (c : Char) : Bool := c = '\x7b' || c = '\x7d'

/-- The plain text before the first place, or in a layout before its end, and what follows it. Fails
at a closing brace that closes no place. The name of a character stands between braces that open no
place; the text within it is `named`. -/
def splitPlain (raw inLayout : Bool) : Bool → List Char → Option (List Char × List Char)
  | _, [] => some ([], [])
  | true, c :: rest =>
      (splitPlain raw inLayout (c != '\x7d') rest).map fun found => (c :: found.1, found.2)
  | false, [c] =>
      if !isBrace c then some ([c], [])
      else if inLayout || c = '\x7b' then some ([], [c])
      else none
  | false, c :: d :: rest =>
      if c = '\\' ∧ !raw ∧ !isBrace d then
        let named := d = 'N' && rest.head? = some '\x7b'
        (splitPlain raw inLayout named rest).map fun found => (c :: d :: found.1, found.2)
      else if !isBrace c then
        (splitPlain raw inLayout false (d :: rest)).map fun found => (c :: found.1, found.2)
      else if inLayout then some ([], c :: d :: rest)
      else if d = c then
        (splitPlain raw inLayout false rest).map fun found => (c :: found.1, found.2)
      else if c = '\x7b' then some ([], c :: d :: rest)
      else none

/-- The bracket that closes an opening one. -/
def closing? (c : Char) : Option Char :=
  match c with
  | '(' => some ')'
  | '[' => some ']'
  | '\x7b' => some '\x7d'
  | _ => none

/-- Characters that end the expression of a place, or compare in it. -/
def isEnding (c : Char) : Bool := ['!', ':', '\x7d', '=', '<', '>'].contains c

/-- The expression at the head of a place, and what follows it. A quoted text within it is between
single or threefold marks, and `closers` are the brackets that it must still close. The next
`skipped` characters belong to a mark that has been read already. -/
def splitExpression (quote : Option (Char × Bool)) (closers : List Char) :
    Nat → List Char → Option (List Char × List Char)
  | _, [] => none
  | skipped + 1, c :: rest =>
      (splitExpression quote closers skipped rest).map fun found => (c :: found.1, found.2)
  | 0, c :: rest =>
      let goOn (quote : Option (Char × Bool)) (closers : List Char) (skipped : Nat) :=
        (splitExpression quote closers skipped rest).map fun found => (c :: found.1, found.2)
      if c = '\\' then none
      else
        match quote with
        | some (mark, threefold) =>
            if c ≠ mark then goOn quote closers 0
            else if !threefold then goOn none closers 0
            else if rest.take 2 = [c, c] then goOn none closers 2
            else goOn quote closers 0
        | none =>
            if Token.isQuoteMark c then
              if rest.take 2 = [c, c] then goOn (some (c, true)) closers 2
              else goOn (some (c, false)) closers 0
            else if c = '#' then none
            else if closers = [] ∧ isEnding c then
              if c ≠ ':' ∧ c ≠ '\x7d' ∧ rest.head? = some '=' then goOn none closers 1
              else if c = '<' ∨ c = '>' then goOn none closers 0
              else some ([], c :: rest)
            else
              match closing? c with
              | some closer => goOn none (closer :: closers) 0
              | none =>
                  if c = ')' ∨ c = ']' ∨ c = '\x7d' then
                    if closers.head? = some c then goOn none (closers.drop 1) 0 else none
                  else goOn none closers 0

/-- The equals sign behind an expression with the blanks around it, if there is one, and what
follows. -/
def splitEquals : List Char → List Char × List Char
  | '=' :: rest =>
      let isSpace := fun c : Char => c.isWhitespace || c = '\x0b' || c = '\x0c'
      ('=' :: rest.takeWhile isSpace, rest.dropWhile isSpace)
  | cs => ([], cs)

/-- The letter that says how a value is written, if there is one, and what follows. -/
def splitConversion : List Char → Option (Option Char × List Char)
  | '!' :: c :: rest => if c = 's' ∨ c = 'r' ∨ c = 'a' then some (some c, rest) else none
  | '!' :: [] => none
  | cs => some (none, cs)

/-- How deep places may be nested. -/
def maxDepth : Nat := 2

/-- What a plain piece means. -/
def plainContent? (raw : Bool) (written : List Char) : Option (List Char) :=
  if raw then some written else Escape.text? written

/-- The layout behind a colon, if there is one, and what follows it. -/
def readLayout (pieces : List Char → Option (List JoinedPiece × List Char)) (cs : List Char) :
    Option (List JoinedPiece × List Char) :=
  if cs.head? = some ':' then pieces (cs.drop 1) else some ([], cs)

/-- The pieces of a text, or of a layout within `depth` places up to its end, and what follows.
Every piece takes at least one character, of which there are fewer than `fuel`. -/
def read (raw : Bool) : Nat → Nat → List Char → Option (List JoinedPiece × List Char)
  | 0, _, _ => none
  | fuel + 1, depth, cs => do
      let (written, rest) ← splitPlain raw (depth ≠ 0) false cs
      let content ← plainContent? raw written
      if rest.head? ≠ some '\x7b' then some ([.plain content], rest)
      else if maxDepth ≤ depth then none
      else do
        let (expression, rest) ← splitExpression none [] 0 (rest.drop 1)
        let (equals, rest) := splitEquals rest
        let (conversion, rest) ← splitConversion rest
        let hasLayout := rest.head? = some ':'
        let (layout, rest) ← readLayout (read raw fuel (depth + 1)) rest
        let isEmpty := expression.all fun c => Token.isBlank c || c = '\n'
        if isEmpty ∨ rest.head? ≠ some '\x7d' then none
        else do
          let (pieces, rest) ← read raw fuel depth (rest.drop 1)
          let label := if equals.isEmpty then [] else expression ++ equals
          let shown := if !label.isEmpty && !hasLayout then some 'r' else none
          some (.plain content :: .place expression label (conversion <|> shown) layout :: pieces,
            rest)

/-- The pieces of a text with places. -/
def ofText? (raw : Bool) (cs : List Char) : Option (List JoinedPiece) := do
  let (pieces, rest) ← read raw (cs.length + 1) 0 cs
  if rest.isEmpty then some pieces else none

end JoinedPiece

end DerivedQuery
