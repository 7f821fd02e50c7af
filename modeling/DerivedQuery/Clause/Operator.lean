import DerivedQuery.Name.Word

/-!
# Clause operators

The operator of a clause is named by its last words. Every operator has a number of arguments and
one or more keywords, each a sequence of words in small letters. The longest keyword that leaves at
least one word for the property decides; a clause without a keyword asks for equality.
-/

set_option autoImplicit false

namespace DerivedQuery

/-- What a clause asks of its property. -/
inductive Operator where
  | isNotNull
  | isNull
  | between
  | lessThan
  | lessThanEqual
  | greaterThan
  | greaterThanEqual
  | before
  | after
  | notLike
  | like
  | startingWith
  | endingWith
  | isNotEmpty
  | isEmpty
  | notContaining
  | containing
  | notIn
  | «in»
  | near
  | within
  | regex
  | «exists»
  | «true»
  | «false»
  | negatingSimpleProperty
  | simpleProperty
  deriving DecidableEq, Repr

namespace Operator

/-- All operators, in the order in which they are listed. -/
def all : List Operator :=
  [.isNotNull, .isNull, .between, .lessThan, .lessThanEqual, .greaterThan, .greaterThanEqual,
    .before, .after, .notLike, .like, .startingWith, .endingWith, .isNotEmpty, .isEmpty,
    .notContaining, .containing, .notIn, .in, .near, .within, .regex, .exists, .true, .false,
    .negatingSimpleProperty, .simpleProperty]

/-- The name of an operator in capitals. -/
def name : Operator → String
  | .isNotNull => "IS_NOT_NULL"
  | .isNull => "IS_NULL"
  | .between => "BETWEEN"
  | .lessThan => "LESS_THAN"
  | .lessThanEqual => "LESS_THAN_EQUAL"
  | .greaterThan => "GREATER_THAN"
  | .greaterThanEqual => "GREATER_THAN_EQUAL"
  | .before => "BEFORE"
  | .after => "AFTER"
  | .notLike => "NOT_LIKE"
  | .like => "LIKE"
  | .startingWith => "STARTING_WITH"
  | .endingWith => "ENDING_WITH"
  | .isNotEmpty => "IS_NOT_EMPTY"
  | .isEmpty => "IS_EMPTY"
  | .notContaining => "NOT_CONTAINING"
  | .containing => "CONTAINING"
  | .notIn => "NOT_IN"
  | .in => "IN"
  | .near => "NEAR"
  | .within => "WITHIN"
  | .regex => "REGEX"
  | .exists => "EXISTS"
  | .true => "TRUE"
  | .false => "FALSE"
  | .negatingSimpleProperty => "NEGATING_SIMPLE_PROPERTY"
  | .simpleProperty => "SIMPLE_PROPERTY"

/-- The number of arguments that a clause with this operator takes. -/
def argumentCount : Operator → Nat
  | .isNotNull | .isNull | .isNotEmpty | .isEmpty | .exists | .true | .false => 0
  | .between => 2
  | _ => 1

/-- The keywords of an operator. -/
def keywords : Operator → List (List String)
  | .isNotNull => [["is", "not", "null"], ["not", "null"]]
  | .isNull => [["is", "null"], ["null"]]
  | .between => [["is", "between"], ["between"]]
  | .lessThan => [["is", "less", "than"], ["less", "than"]]
  | .lessThanEqual => [["is", "less", "than", "equal"], ["less", "than", "equal"]]
  | .greaterThan => [["is", "greater", "than"], ["greater", "than"]]
  | .greaterThanEqual => [["is", "greater", "than", "equal"], ["greater", "than", "equal"]]
  | .before => [["is", "before"], ["before"]]
  | .after => [["is", "after"], ["after"]]
  | .notLike => [["is", "not", "like"], ["not", "like"]]
  | .like => [["is", "like"], ["like"]]
  | .startingWith => [["is", "starting", "with"], ["starting", "with"], ["starts", "with"]]
  | .endingWith => [["is", "ending", "with"], ["ending", "with"], ["ends", "with"]]
  | .isNotEmpty => [["is", "not", "empty"], ["not", "empty"]]
  | .isEmpty => [["is", "empty"], ["empty"]]
  | .notContaining => [["is", "not", "containing"], ["not", "containing"], ["not", "contains"]]
  | .containing => [["is", "containing"], ["containing"], ["contains"]]
  | .notIn => [["is", "not", "in"], ["not", "in"]]
  | .in => [["is", "in"], ["in"]]
  | .near => [["is", "near"], ["near"]]
  | .within => [["is", "within"], ["within"]]
  | .regex => [["matches", "regex"], ["matches"], ["regex"]]
  | .exists => [["exists"]]
  | .true => [["is", "true"], ["true"]]
  | .false => [["is", "false"], ["false"]]
  | .negatingSimpleProperty => [["is", "not"], ["not"]]
  | .simpleProperty => [["is"], ["equals"]]

/-- Every keyword with its operator. -/
def keywordTable : List (List String × Operator) :=
  all.flatMap fun operator => operator.keywords.map fun keyword => (keyword, operator)

/-- Every keyword with its operator, longest keywords first. No keyword has more than four words. -/
def longestFirst : List (List String × Operator) :=
  [4, 3, 2, 1].flatMap fun size => keywordTable.filter fun entry => entry.1.length == size

/-- The operator that the last words of a clause name, and the number of these words. -/
def ofWords (words : List Word) : Operator × Nat :=
  match longestFirst.find? fun entry =>
      entry.1.length < words.length && endsWith words entry.1 with
  | some entry => (entry.2, entry.1.length)
  | none => (.simpleProperty, 0)

end Operator

end DerivedQuery
