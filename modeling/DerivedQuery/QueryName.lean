import DerivedQuery.Clause
import DerivedQuery.Text.Quoted

/-!
# Query names

A query name says what to look for: a verb, an optional `Distinct`, an optional `First` or `Top`
with a number, a predicate after `By` of clauses joined by `And` and `Or`, and the properties to
sort by after `OrderBy`. This module holds the parsed form.
-/

set_option autoImplicit false

namespace DerivedQuery

/-- The verbs that may start a query name. -/
inductive Verb where
  | count
  | delete
  | «exists»
  | find
  | get
  | query
  | read
  | remove
  | search
  | stream
  deriving DecidableEq, Repr

namespace Verb

/-- All verbs in alphabetical order. -/
def all : List Verb :=
  [.count, .delete, .exists, .find, .get, .query, .read, .remove, .search, .stream]

/-- The spelling of a verb in small letters. -/
def key : Verb → String
  | .count => "count"
  | .delete => "delete"
  | .exists => "exists"
  | .find => "find"
  | .get => "get"
  | .query => "query"
  | .read => "read"
  | .remove => "remove"
  | .search => "search"
  | .stream => "stream"

/-- The verb with this spelling. -/
def ofKey? (key : String) : Option Verb :=
  all.find? fun verb => verb.key == key

/-- Verbs that ask for the deletion of what is found. -/
def isDelete : Verb → Bool
  | .delete | .remove => true
  | _ => false

end Verb

/-- The direction of a sort. -/
inductive Direction where
  | ascending
  | descending
  deriving DecidableEq, Repr

namespace Direction

/-- The name of a direction in capitals. -/
def name : Direction → String
  | .ascending => "ASCENDING"
  | .descending => "DESCENDING"

/-- The direction that a word names. -/
def ofKey? (key : String) : Option Direction :=
  if key = "asc" then some .ascending else if key = "desc" then some .descending else none

end Direction

/-- A property to sort by. -/
structure SortKey where
  property : String
  direction : Direction
  deriving DecidableEq, Repr

/-- What a query name says. The groups of clauses are joined by `Or`, the clauses of a group by
`And`. -/
structure QueryName where
  verb : Verb
  distinct : Bool
  limit : Option Nat
  groups : List (List Clause)
  orders : List SortKey
  deriving DecidableEq, Repr

namespace QueryName

/-- All clauses in the order of the name. -/
def clauses (name : QueryName) : List Clause := name.groups.flatten

/-- The parsed form behind the name it was read from. -/
def describe (source : String) (name : QueryName) : String :=
  let group (clauses : List Clause) := "(" ++ " AND ".intercalate (clauses.map Clause.text) ++ ")"
  let groups := " OR ".intercalate (name.groups.map group)
  let order (key : SortKey) :=
    "(" ++ Text.quoted key.property ++ ", " ++ Text.quoted key.direction.name ++ ")"
  "<PartTree " ++ Text.quoted source ++ ": " ++ (if groups = "" then "-" else groups) ++
    " sort=[" ++ ", ".intercalate (name.orders.map order) ++ "]>"

end QueryName

end DerivedQuery
