import DerivedQuery.Meaning.Function
import DerivedQuery.Meaning.Part

/-!
# Filling texts

A text may have places for arguments between braces. A place names an argument by its number or its
name, or takes the next one; behind it stand attributes and indices that lead to a part of the
argument, the letter that says how the part is written, and its layout. A layout may have places of
its own, but no deeper ones. Two braces side by side are one.
-/

set_option autoImplicit false

namespace DerivedQuery

/-- How the places of a text name their arguments: they are counted, or they give numbers. -/
inductive Numbering where
  | undecided
  | counted (next : Nat)
  | given
  deriving DecidableEq, Repr

/-- The arguments for the places of a text. -/
structure PlaceArguments where
  positional : List Meaning
  named : List (String × Meaning)

/-- A place between braces. -/
structure BracePlace where
  /-- The argument and the way to its part. -/
  path : List Char
  conversion : Option Char
  layout : List Char
  /-- The layout has places of its own. -/
  nested : Bool
  deriving DecidableEq, Repr

namespace BracePlace

/-- The fault of a text whose places cannot be read. -/
def refuse {α : Type} (message : String) : Except Failure α :=
  .error (.expression (.badValue message))

/-! ## Reading -/

/-- The path at the head of a place, and what follows it. What stands between square brackets ends
no path. -/
def splitPath (bracketed : Bool) : List Char → Except Failure (List Char × List Char)
  | [] => .ok ([], [])
  | c :: rest =>
      if bracketed then
        (splitPath (c != ']') rest).map fun found => (c :: found.1, found.2)
      else if c = '\x7b' then refuse "unexpected '\x7b' in field name"
      else if c = '\x7d' ∨ c = ':' ∨ c = '!' then .ok ([], c :: rest)
      else (splitPath (c == '[') rest).map fun found => (c :: found.1, found.2)

/-- The layout at the head of the rest of a place, whether it has places of its own, and what
follows the place; `depth` places are open within the layout. -/
def splitLayout : Nat → List Char → Except Failure (List Char × Bool × List Char)
  | _, [] => refuse "unmatched '\x7b' in format spec"
  | depth, c :: rest =>
      let goOn (depth : Nat) (nested : Bool) : Except Failure (List Char × Bool × List Char) :=
        (splitLayout depth rest).map fun found => (c :: found.1, nested || found.2.1, found.2.2)
      if c = '\x7b' then goOn (depth + 1) true
      else if c = '\x7d' then
        match depth with
        | 0 => .ok ([], false, rest)
        | depth + 1 => goOn depth false
      else goOn depth false

/-- The place behind an opening brace, and what follows it. -/
def read (cs : List Char) : Except Failure (BracePlace × List Char) := do
  let (path, rest) ← splitPath false cs
  let ended (conversion : Option Char) (rest : List Char) :
      Except Failure (BracePlace × List Char) := do
    let (layout, nested, after) ← splitLayout 0 rest
    .ok (⟨path, conversion, layout, nested⟩, after)
  match rest with
  | '\x7d' :: after => .ok (⟨path, none, [], false⟩, after)
  | ':' :: after => ended none after
  | '!' :: letter :: after =>
      match after with
      | '\x7d' :: after => .ok (⟨path, some letter, [], false⟩, after)
      | ':' :: after => ended (some letter) after
      | [] => ended (some letter) []
      | _ => refuse "expected ':' after conversion specifier"
  | ['!'] => refuse "end of string while looking for conversion specifier"
  | _ => refuse "expected '\x7d' before end of string"

/-- The whole number that a name is, if it is one. -/
def number? (name : List Char) : Except Failure (Option Nat) :=
  if name.isEmpty || !name.all Text.isDigit then .ok none
  else if Nat.pow 2 63 ≤ Text.digitsValue name then refuse "Too many decimal digits in format string"
  else .ok (some (Text.digitsValue name))

/-- Does a character start a step to a part? -/
def startsStep (c : Char) : Bool := c = '.' || c = '['

/-! ## Looking up -/

/-- The number of the argument that a place names, if it names one by its number, and how further
places name theirs. -/
def choose (numbering : Numbering) (name : List Char) :
    Except Failure (Option Nat × Numbering) := do
  let switch (before after : String) : Except Failure (Option Nat × Numbering) :=
    refuse ("cannot switch from " ++ before ++ " to " ++ after)
  let counted := "automatic field numbering"
  let given := "manual field specification"
  match ← number? name, name.isEmpty, numbering with
  | some n, _, .undecided | some n, _, .given => .ok (some n, .given)
  | some _, _, .counted _ => switch counted given
  | none, true, .undecided => .ok (some 0, .counted 1)
  | none, true, .counted next => .ok (some next, .counted (next + 1))
  | none, true, .given => switch given counted
  | none, false, _ => .ok (none, numbering)

/-- The argument of a number or a name. -/
def argument (arguments : PlaceArguments) (number : Option Nat) (name : String) :
    Except Failure Meaning :=
  match number with
  | some n =>
      match arguments.positional[n]? with
      | some found => .ok found
      | none => .error (.expression (.noArgument n))
  | none =>
      match Dictionary.get? arguments.named name with
      | some found => .ok found
      | none => .error (.expression (.missingKey (Text.quoted name)))

/-- The part of a meaning at the end of some steps. There are fewer of them than `bound`. -/
def follow : Nat → Meaning → List Char → Except Failure Meaning
  | 0, meaning, _ | _ + 1, meaning, [] => .ok meaning
  | bound + 1, meaning, c :: rest =>
      let empty : Except Failure Meaning := refuse "Empty attribute in format string"
      if c = '.' then do
        let name := rest.takeWhile fun c => !startsStep c
        if name.isEmpty then empty
        else do
          let found ← meaning.member (String.ofList name)
          follow bound found (rest.drop name.length)
      else if c = '[' then do
        let name := rest.takeWhile (· != ']')
        if name.length = rest.length then refuse "Missing ']' in format string"
        else do
          let number ← number? name
          if name.isEmpty then empty
          else do
            let index := match number with
              | some n => Meaning.integer n
              | none => Meaning.text (String.ofList name)
            let found ← meaning.part index
            follow bound found (rest.drop (name.length + 1))
      else refuse "Only '.' or '[' may follow ']' in format field specifier"

/-- The meaning at a place, and how further places name their arguments. -/
def value (place : BracePlace) (arguments : PlaceArguments) (numbering : Numbering) :
    Except Failure (Meaning × Numbering) := do
  let name := place.path.takeWhile fun c => !startsStep c
  let (number, after) ← choose numbering name
  let whole ← argument arguments number (String.ofList name)
  let part ← follow (place.path.length + 1) whole (place.path.drop name.length)
  .ok (part, after)

/-- Fails at a letter that says nothing about how a value is written. -/
def checkConversion (letter : Char) : Except Failure Unit :=
  if ['r', 's', 'a'].contains letter then .ok ()
  else
    let shown := if 32 < letter.toNat ∧ letter.toNat < 127 then letter.toString
      else "\\x" ++ String.ofList (Nat.toDigits 16 letter.toNat)
    refuse ("Unknown conversion specifier " ++ shown)

end BracePlace

namespace PlaceArguments

/-- A text with its places filled, where it is known, and how further places name their arguments.
In the layouts of the text there are places up to a `depth`. Every step takes at least one
character, of which there are fewer than `fuel`. -/
def fill (arguments : PlaceArguments) :
    Nat → Nat → Numbering → List Char → Except Failure (Option (List Char) × Numbering)
  | 0, _, numbering, _ => .ok (none, numbering)
  | _ + 1, _, numbering, [] => .ok (some [], numbering)
  | fuel + 1, depth, numbering, c :: rest => do
      let isBrace := c = '\x7b' || c = '\x7d'
      if isBrace && rest.head? = some c then do
        let (others, after) ← fill arguments fuel depth numbering (rest.drop 1)
        .ok (others.map (c :: ·), after)
      else if c = '\x7d' then BracePlace.refuse "Single '\x7d' encountered in format string"
      else if c ≠ '\x7b' then do
        let (others, after) ← fill arguments fuel depth numbering rest
        .ok (others.map (c :: ·), after)
      else if rest.isEmpty then BracePlace.refuse "Single '\x7b' encountered in format string"
      else do
        let (place, rest) ← BracePlace.read rest
        let (value, numbering) ← place.value arguments numbering
        place.conversion.forM BracePlace.checkConversion
        let (layout, numbering) ←
          if !place.nested then .ok (some place.layout, numbering)
          else
            match depth with
            | 0 => BracePlace.refuse "Max string recursion exceeded"
            | depth + 1 => fill arguments fuel depth numbering place.layout
        let shown ← match layout with
          | some cs => Meaning.shownText value place.conversion (String.ofList cs)
          | none => .ok .unknown
        let (others, after) ← fill arguments fuel depth numbering rest
        let text? := match shown with
          | .datum (.text content) => others.map (content.toList ++ ·)
          | _ => none
        .ok (text?, after)

/-- How deep places may be nested in layouts. -/
def deepest : Nat := 1

/-- A text with its places filled, where it is known. -/
def fillText (arguments : PlaceArguments) (template : String) : Except Failure Meaning := do
  let cs := template.toList
  let (found, _) ← arguments.fill (cs.length + 1) deepest .undecided cs
  .ok (match found with
    | some filled => Meaning.text (String.ofList filled)
    | none => .unknown)

end PlaceArguments

end DerivedQuery
