import DerivedQuery.Datum
import DerivedQuery.Parameter

/-!
# Expressions

An annotation is written as an expression: names, data and collections of expressions, with
operations, comparisons, conditions, calls, parts, functions and collections that are gathered from
others.
-/

set_option autoImplicit false

namespace DerivedQuery

/-- A sign before an operand. -/
inductive Sign where
  | plus
  | minus
  | complement
  deriving DecidableEq, Repr

namespace Sign

/-- The mark of a sign. -/
def mark : Sign → String
  | .plus => "+"
  | .minus => "-"
  | .complement => "~"

end Sign

/-- An operation on two operands. -/
inductive Operation where
  | union
  | exclusion
  | intersection
  | leftShift
  | rightShift
  | sum
  | difference
  | product
  | quotient
  | wholeQuotient
  | remainder
  | matrixProduct
  | power
  deriving DecidableEq, Repr

namespace Operation

/-- The mark of an operation. -/
def mark : Operation → String
  | .union => "|"
  | .exclusion => "^"
  | .intersection => "&"
  | .leftShift => "<<"
  | .rightShift => ">>"
  | .sum => "+"
  | .difference => "-"
  | .product => "*"
  | .quotient => "/"
  | .wholeQuotient => "//"
  | .remainder => "%"
  | .matrixProduct => "@"
  | .power => "**"

/-- The operations that bind their operands equally, loosest first. Powers bind tightest and are not
among them. -/
def levels : List (List Operation) :=
  [[.union], [.exclusion], [.intersection], [.leftShift, .rightShift], [.sum, .difference],
    [.product, .quotient, .wholeQuotient, .remainder, .matrixProduct]]

end Operation

/-- A comparison of two operands. -/
inductive Relation where
  | less
  | greater
  | equal
  | greaterOrEqual
  | lessOrEqual
  | unequal
  | among
  | notAmong
  | identical
  | distinct
  deriving DecidableEq, Repr

namespace Relation

/-- The mark of a relation that is written with one. -/
def mark : Relation → String
  | .less => "<"
  | .greater => ">"
  | .equal => "=="
  | .greaterOrEqual => ">="
  | .lessOrEqual => "<="
  | .unequal => "!="
  | .among => "in"
  | .notAmong => "not in"
  | .identical => "is"
  | .distinct => "is not"

/-- The relations that are written with a single mark. -/
def simple : List Relation :=
  [.less, .greater, .equal, .greaterOrEqual, .lessOrEqual, .unequal, .among]

end Relation

/-- What a gathering makes of the elements that it yields. -/
inductive Gathering where
  | list
  | set
  | dictionary
  /-- The elements are yielded when they are asked for. -/
  | generator
  deriving DecidableEq, Repr

mutual

/-- An expression. -/
inductive Expression where
  | identifier (name : String)
  | datum (value : Datum)
  /-- A number times the imaginary unit. -/
  | imaginary (size : Double)
  | ellipsis
  /-- Texts one after the other, among them texts of values. -/
  | joined (pieces : List Expression)
  /-- A piece of a joined text: a value, written in a way and laid out by a text. -/
  | shown (value : Expression) (conversion : Option Char) (layout : List Expression)
  | tuple (items : List Expression)
  | list (items : List Expression)
  | set (items : List Expression)
  /-- The items are entries or spread dictionaries. -/
  | dictionary (items : List Expression)
  /-- An item of a dictionary: a key and its value. -/
  | entry (key value : Expression)
  /-- An item that stands for all elements of a value. -/
  | spread (items : Expression)
  /-- An item that stands for all entries of a dictionary. -/
  | spreadEntries (entries : Expression)
  | member (base : Expression) (name : String)
  | part (base index : Expression)
  | slice (first last step : Expression)
  /-- The arguments are values, spread or not, and named values. -/
  | call (callee : Expression) (arguments : List Expression)
  /-- An argument that is given by name. -/
  | named (name : String) (value : Expression)
  | signed (sign : Sign) (operand : Expression)
  | negation (operand : Expression)
  | operation (operation : Operation) (left right : Expression)
  /-- Operands of which each is compared with the one before it. -/
  | comparison (first : Expression) (others : List (Relation × Expression))
  | both (left right : Expression)
  | either (left right : Expression)
  | choice (condition positive negative : Expression)
  /-- A function; one that suspends its work makes a generator. -/
  | function (parameters : List Parameter) (fallbacks : List (String × Expression))
      (suspends : Bool) (body : Expression)
  | gathered (gathering : Gathering) (item : Expression) (clauses : List GatheringClause)
  | assigned (name : String) (value : Expression)

/-- A clause of a gathering. -/
inductive GatheringClause where
  /-- Everything that follows is done for each element of a source, to which the target is set. -/
  | each (target source : Expression)
  /-- Everything that follows is done where a condition holds. -/
  | only (condition : Expression)

end

namespace Expression

/-- Nothing at all. -/
def null : Expression := .datum .null

/-- The names that setting a target sets. Fails where an expression cannot be set. -/
def targetNames? : Expression → Option (List String)
  | .identifier name => if name = "__debug__" then none else some [name]
  | .tuple items | .list items => namesOfAll? items
  | .spread target => targetNames? target
  | .member _ name => if name = "__debug__" then none else some []
  | .part _ _ => some []
  | _ => none
where
  /-- The names that setting several targets sets. -/
  namesOfAll? : List Expression → Option (List String)
    | [] => some []
    | item :: rest => do
        let names ← targetNames? item
        let others ← namesOfAll? rest
        some (names ++ others)

end Expression

end DerivedQuery
