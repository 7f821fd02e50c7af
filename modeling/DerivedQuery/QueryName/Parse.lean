import DerivedQuery.Number.Numeral
import DerivedQuery.QueryName

/-!
# Reading query names

The words of a name are read from the left. The first word is the verb. The first `By` ends the
subject, which holds `Distinct` and the limit; what follows is the predicate up to `OrderBy` and
then the sort keys. Each way in which a name can fail is a `NameFault`; where a name has several
faults, the one that is met first in the order of `parse` is reported.
-/

set_option autoImplicit false

namespace DerivedQuery

/-- What can be wrong with a query name. -/
inductive NameFault where
  | noVerb
  | repeatedOrderBy
  | danglingConnective
  | noProperty
  | directionWithoutProperty
  | emptyOrderBy
  | longLimit (digits : Nat)
  deriving DecidableEq, Repr

namespace NameFault

/-- The message for a fault. -/
def message : NameFault → String
  | .noVerb =>
      "Method name must start with one of [" ++
        ", ".intercalate (Verb.all.map fun verb => Text.quoted verb.key) ++ "]"
  | .repeatedOrderBy => "OrderBy must not be used more than once"
  | .danglingConnective => "Dangling And/Or in predicate"
  | .noProperty => "Predicate clause has no property"
  | .directionWithoutProperty => "Sort direction without a property"
  | .emptyOrderBy => "OrderBy requires at least one property"
  | .longLimit digits => Numeral.tooManyDigits digits

end NameFault

namespace QueryName

/-- The words before the first `By` and those after it; without one all words are the subject. -/
def splitSubject (words : List Word) : List Word × List Word :=
  (words.takeWhile (·.key != "by"), (words.dropWhile (·.key != "by")).drop 1)

/-- The limit that a word states: the number it spells, or one when it is no number. -/
def limitOf : List Word → Except NameFault Nat
  | [] => .ok 1
  | word :: _ =>
      let digits := word.text.toList
      if digits.isEmpty || !digits.all Text.isDigit then .ok 1
      else if Numeral.maxDigits < digits.length then .error (.longLimit digits.length)
      else .ok (Text.digitsValue digits)

/-- A limit counts only at the start of the subject, or right after `Distinct`. -/
def parseLimit (subject : List Word) : Except NameFault (Option Nat) :=
  let words := match subject with
    | word :: rest => if word.key = "distinct" then rest else word :: rest
    | [] => []
  match words with
  | [] => .ok none
  | word :: rest =>
      if word.key = "first" || word.key = "top" then (limitOf rest).map some else .ok none

/-- The words before the first `OrderBy` and those after it. -/
def splitOrderBy? : List Word → Option (List Word × List Word)
  | first :: second :: rest =>
      if first.key = "order" && second.key = "by" then some ([], rest)
      else (splitOrderBy? (second :: rest)).map fun parts => (first :: parts.1, parts.2)
  | _ => none

/-- The predicate, and the words of the sort keys if there is an `OrderBy`. -/
def splitOrdering (words : List Word) : Except NameFault (List Word × Option (List Word)) :=
  match splitOrderBy? words with
  | none => .ok (words, none)
  | some parts =>
      if (splitOrderBy? parts.2).isSome then .error .repeatedOrderBy
      else .ok (parts.1, some parts.2)

/-- One group of clauses. An empty clause is found before any clause is read. -/
def parseGroup (style : NameStyle) (words : List Word) : Except NameFault (List Clause) :=
  let clauses := splitOn "and" words
  if clauses.any List.isEmpty then .error .danglingConnective
  else clauses.mapM fun clause =>
    match Clause.ofWords? style clause with
    | some clause => .ok clause
    | none => .error .noProperty

/-- The groups of a predicate; no words, no groups. -/
def parsePredicate (style : NameStyle) (words : List Word) :
    Except NameFault (List (List Clause)) :=
  if words.isEmpty then .ok [] else (splitOn "or" words).mapM (parseGroup style)

/-- The sort keys of words, of which `pending` belong to the property that is being read. -/
def sortKeysAfter (style : NameStyle) (pending : List Word) :
    List Word → Except NameFault (List SortKey)
  | [] => .ok (if pending.isEmpty then [] else [⟨joinProperty style pending, .ascending⟩])
  | word :: rest =>
      match Direction.ofKey? word.key with
      | none => sortKeysAfter style (pending ++ [word]) rest
      | some direction =>
          if pending.isEmpty then .error .directionWithoutProperty
          else (sortKeysAfter style [] rest).map (⟨joinProperty style pending, direction⟩ :: ·)

/-- The sort keys behind an `OrderBy`, at least one. -/
def parseOrdering (style : NameStyle) : Option (List Word) → Except NameFault (List SortKey)
  | none => .ok []
  | some words => do
      let keys ← sortKeysAfter style [] words
      if keys.isEmpty then .error .emptyOrderBy else .ok keys

/-- Reads the words of a query name that is written in the given style. -/
def ofWords (style : NameStyle) : List Word → Except NameFault QueryName
  | [] => .error .noVerb
  | first :: rest =>
      match Verb.ofKey? first.key with
      | none => .error .noVerb
      | some verb => do
          let (subject, predicate) := splitSubject rest
          let limit ← parseLimit subject
          let (predicate, ordering) ← splitOrdering predicate
          let groups ← parsePredicate style predicate
          let orders ← parseOrdering style ordering
          .ok ⟨verb, subject.any (·.key == "distinct"), limit, groups, orders⟩

/-- Reads a query name. -/
def parse (name : String) : Except NameFault QueryName :=
  ofWords (NameStyle.ofName name) (splitWords name)

/-- A public name whose first word is a verb. -/
def isQueryName (name : String) : Bool :=
  match name.toList, splitWords name with
  | '_' :: _, _ => false
  | _, [] => false
  | _, first :: _ => (Verb.ofKey? first.key).isSome

end QueryName

end DerivedQuery
