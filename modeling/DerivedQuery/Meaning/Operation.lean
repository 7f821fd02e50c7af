import DerivedQuery.Log.Template.Fill
import DerivedQuery.Meaning.Form
import DerivedQuery.Number.Arithmetic

/-!
# Operations

Numbers are reckoned with, sequences are joined and repeated, sets and dictionaries are combined,
types become alternatives, and a text before a remainder sign is a template. Truth values count as
one and zero. Where an operation is not known for two types, the fault names both.
-/

set_option autoImplicit false

namespace DerivedQuery.Meaning

/-- A number as operations see it. -/
inductive Numeric where
  | whole (n : Int)
  | real (d : Double)

/-- A meaning as a number. -/
def numeric? : Meaning → Option Numeric
  | .datum (.boolean b) => some (.whole (if b then 1 else 0))
  | .datum (.integer n) => some (.whole n)
  | .datum (.double d) => some (.real d)
  | _ => none

/-- A meaning as a whole number. -/
def wholeNumber? (meaning : Meaning) : Option Int :=
  match meaning.numeric? with
  | some (.whole n) => some n
  | _ => none

/-- A number that may not be known. -/
def ofDouble? (d : Option Double) : Meaning :=
  match d with
  | some found => .datum (.double found)
  | none => .unknown

/-- The double nearest to a whole number, which must not be too large. -/
def nearestDouble (n : Int) : Except Failure Double :=
  match Double.ofInt n with
  | .infinite _ => .error (.template .doubleOutOfRange)
  | d => .ok d

/-- The quotient of two whole numbers, of which the second is not zero. -/
def wholeQuotient (a b : Int) : Except Failure Meaning :=
  match Double.quotient a b with
  | .infinite _ => .error (.expression .largeQuotient)
  | d => .ok (.datum (.double d))

/-- The fault of an operation that is not known for two types. -/
def unsupported (operation : Operation) (left right : Meaning) : Except Failure Meaning :=
  let mark := if operation = .power then "** or pow()" else operation.mark
  let fault := ExpressionFault.operands mark left.typeName right.typeName
  match operation, left with
  | .rightShift, .function "print" =>
      .error (.expression (.misuse (fault.message ++ ". Did you mean " ++
        String.ofList ['"'] ++ "print(<message>, file=<output_stream>)" ++
        String.ofList ['"'] ++ "?")))
  | _, _ => .error (.expression fault)

/-- The fault of a division by zero. -/
def divided (phrase : String) : Except Failure Meaning :=
  .error (.expression (.zeroDivision phrase))

/-- The most bits that a power or a shifted number is worked out for. -/
def mostBits : Nat := 100000

/-- A power of whole numbers. -/
def wholePower (base exponent : Int) : Except Failure Meaning :=
  let size := exponent.natAbs
  if mostBits < (Nat.log2 base.natAbs + 1) * size ∧ 1 < base.natAbs then .ok .unknown
  else
    let power : Int :=
      if base.natAbs ≤ 1 then (if size % 2 = 0 then base * base else base) else Int.pow base size
    if exponent = 0 then .ok (integer 1)
    else if 0 < exponent then .ok (integer power)
    else if base = 0 then divided "0.0 cannot be raised to a negative power"
    else .ok (ofDouble? (some (Double.quotient 1 power)))

/-- A whole number with its bits shifted. -/
def shifted (n distance : Int) (left : Bool) : Except Failure Meaning :=
  if distance < 0 then .error (.expression (.badValue "negative shift count"))
  else if !left then
    .ok (integer (if mostBits < distance.toNat then (if n < 0 then -1 else 0)
      else n.fdiv (Int.pow 2 distance.toNat)))
  else if n = 0 then .ok (integer 0)
  else if mostBits < distance.toNat then .ok .unknown
  else .ok (integer (n * Int.pow 2 distance.toNat))

/-- An operation on two whole numbers, where it is known for them. -/
def wholeOperation? (a b : Int) : Operation → Option (Except Failure Meaning)
  | .sum => some (.ok (integer (a + b)))
  | .difference => some (.ok (integer (a - b)))
  | .product => some (.ok (integer (a * b)))
  | .quotient =>
      some (if b = 0 then divided "division by zero"
        else wholeQuotient a b)
  | .wholeQuotient =>
      some (if b = 0 then divided "integer division or modulo by zero"
        else .ok (integer (a.fdiv b)))
  | .remainder =>
      some (if b = 0 then divided "integer modulo by zero" else .ok (integer (a.fmod b)))
  | .power => some (wholePower a b)
  | .leftShift => some (shifted a b true)
  | .rightShift => some (shifted a b false)
  | .intersection => some (.ok (integer (Integer.sharedBits a b)))
  | .union => some (.ok (integer (Integer.eitherBits a b)))
  | .exclusion => some (.ok (integer (Integer.differentBits a b)))
  | .matrixProduct => none

/-- An operation on two doubles, where it is known for them. -/
def realOperation? (a b : Double) : Operation → Option (Except Failure Meaning)
  | .sum => some (.ok (ofDouble? (a.sum? b)))
  | .difference => some (.ok (ofDouble? (a.difference? b)))
  | .product => some (.ok (ofDouble? (a.product? b)))
  | .quotient =>
      some (if b.isZero then divided "float division by zero" else .ok (ofDouble? (a.quotient? b)))
  | .wholeQuotient =>
      some (if b.isZero then divided "float floor division by zero"
        else .ok (ofDouble? (a.wholeQuotient? b)))
  | .remainder =>
      some (if b.isZero then divided "float modulo" else .ok (ofDouble? (a.remainder? b)))
  | .power =>
      some (if a.isZero && b.quantity?.any fun q => q.compare (.ofInt 0) == .lt then
          divided "0.0 cannot be raised to a negative power"
        else .ok .unknown)
  | _ => none

/-- A number as a double. -/
def Numeric.toDouble : Numeric → Except Failure Double
  | .whole n => nearestDouble n
  | .real d => .ok d

/-- An operation on two numbers, where it is known for them. -/
def numericOperation? (a b : Numeric) (operation : Operation) : Option (Except Failure Meaning) :=
  match a, b with
  | .whole x, .whole y => wholeOperation? x y operation
  | x, y =>
      match x.toDouble, y.toDouble with
      | .ok a, .ok b => realOperation? a b operation
      | .error fault, _ | .ok _, .error fault => some (.error fault)

/-- An operation on two truth values that yields one, where it does. -/
def truthOperation? (a b : Bool) : Operation → Option Bool
  | .intersection => some (a && b)
  | .union => some (a || b)
  | .exclusion => some (a != b)
  | _ => none

/-- Two sequences one after the other, where the first is a sequence. -/
def joined? (left right : Meaning) : Option (Except Failure Meaning) :=
  let only := "can only concatenate " ++ left.typeName ++ " (not " ++ String.ofList ['"'] ++
    right.typeName ++ String.ofList ['"'] ++ ") to " ++ left.typeName
  let misuse (message : String) : Except Failure Meaning := .error (.expression (.misuse message))
  match left, right with
  | .datum (.text a), .datum (.text b) => some (.ok (text (a ++ b)))
  | .datum (.bytes a), .datum (.bytes b) => some (.ok (.datum (.bytes (a ++ b))))
  | .list a, .list b => some (.ok (.list (a ++ b)))
  | .tuple a, .tuple b => some (.ok (.tuple (a ++ b)))
  | .datum (.bytes _), _ => some (misuse ("can't concat " ++ right.typeName ++ " to bytes"))
  | .datum (.text _), _ | .list _, _ | .tuple _, _ => some (misuse only)
  | _, _ => none

/-- The greatest number of elements that a repeated sequence may have and still be worked out. -/
def mostElements : Nat := 100000

/-- A sequence a number of times over, where it is a sequence. -/
def repeated? (sequence count : Meaning) : Option (Except Failure Meaning) :=
  let times {α : Type} (items : List α) (wrap : List α → Meaning) : Except Failure Meaning :=
    match count.wholeNumber? with
    | none =>
        .error (.expression (.misuse
          ("can't multiply sequence by non-int of type " ++ Text.quoted count.typeName)))
    | some n =>
        if mostElements < items.length * n.toNat then .ok .unknown
        else .ok (wrap ((List.replicate n.toNat items).flatten))
  match sequence with
  | .datum (.text content) => some (times content.toList fun cs => text (String.ofList cs))
  | .datum (.bytes content) => some (times content fun bytes => .datum (.bytes bytes))
  | .list items => some (times items .list)
  | .tuple items => some (times items .tuple)
  | _ => none

/-- An operation on two sets, where it is known for them. -/
def setOperation? (frozen : Bool) (a b : List Meaning) : Operation → Option Meaning
  | .union => some (.set frozen (a ++ b.filter fun item => !a.any item.same))
  | .intersection => some (.set frozen (a.filter fun item => b.any item.same))
  | .difference => some (.set frozen (a.filter fun item => !b.any item.same))
  | .exclusion =>
      some (.set frozen ((a.filter fun item => !b.any item.same) ++
        b.filter fun item => !a.any item.same))
  | _ => none

/-- A meaning as a datum that shows its text, where there is one. -/
def shownDatum? : Meaning → Option Datum
  | .model described => some (.foreign (.classObject described.qualifiedName))
  | .builtinClass name => some (.foreign (.classObject (qualifiedClass name)))
  | meaning => meaning.toDatum?

/-- Can parts of a meaning be asked for by an index, other than characters? -/
def hasParts : Meaning → Bool
  | .list _ | .dictionary _ | .applied _ _ _ | .either _ _ | .spread _ | .datum (.bytes _)
  | .datum (.foreign (.range _)) => true
  | .form name => name != "Any"
  | _ => false

/-- The arguments that a value, or the values of a sequence, are to a template, where `shown` makes
data of all of them. What has parts need not be used up. -/
def templateArguments? (shown : Meaning → Option Datum) (values : Meaning) :
    Option TemplateArguments := do
  match values with
  | .tuple items => do
      let waiting ← items.mapM shown
      some ⟨none, waiting⟩
  | .dictionary entries => do
      let whole ← shown values
      let pairs ← entries.mapM fun entry => do
        let key ← shown entry.1
        let value ← shown entry.2
        some (key, value)
      some ⟨some pairs, [whole]⟩
  | value => do
      let datum ← shown value
      some ⟨if value.hasParts then some [] else none, [datum]⟩

/-- Is a part of a template a place? -/
def isPlace : TemplatePart → Bool
  | .place _ => true
  | .plain _ => false

/-- Does a part of a template ask for a value by its key? -/
def asksForKey : TemplatePart → Bool
  | .place place => place.key ≠ .absent
  | .plain _ => false

/-- A template filled with a value, or with the values of a sequence. Of a value that is no datum
the type is known, and of some the text. -/
def filled (template : String) (values : Meaning) : Except Failure Meaning :=
  let cs := template.toList
  let parts := templateParts cs.length cs
  let fill (arguments : TemplateArguments) : Except Failure (List Char) :=
    (arguments.fill parts).mapError Failure.template
  let typed (value : Meaning) : Option Datum :=
    some (value.toDatum?.getD (.foreign (.other value.typeName)))
  let isDictionary := values matches .dictionary _
  if parts.any asksForKey && values.hasParts && !isDictionary then .ok .unknown
  else do
    match templateArguments? typed values with
    | some arguments => discard (fill arguments)
    | none => .ok ()
    let shown := if parts.any isPlace then shownDatum? else typed
    match templateArguments? shown values with
    | some arguments => do
        let content ← fill arguments
        .ok (text (String.ofList content))
    | none => .ok .unknown

/-- A byte string filled with a value, or with the values of a sequence. It is known where it has no
places. -/
def filledBytes (template : List UInt8) (values : Meaning) : Except Failure Meaning :=
  let isUsedUp : Bool := match values with
    | .tuple items => items.isEmpty
    | .datum (.bytes _) => false
    | value => value.hasParts
  if template.contains '%'.toUInt8 then .ok .unknown
  else if isUsedUp then .ok (.datum (.bytes template))
  else
    .error (.expression (.misuse "not all arguments converted during bytes formatting"))

/-- Is a meaning a number with an imaginary part, or one that goes with such? -/
def isComplex : Meaning → Bool
  | .object "complex" _ => true
  | _ => false

/-- An operation on numbers of which one has an imaginary part. -/
def complexOperation? (left right : Meaning) (operation : Operation) : Option Meaning :=
  let isNumber (meaning : Meaning) : Bool := meaning.isComplex || meaning.numeric?.isSome
  let isKnown := [Operation.sum, .difference, .product, .quotient, .power].contains operation
  if (left.isComplex || right.isComplex) && isNumber left && isNumber right && isKnown then
    some (.object "complex" "complex")
  else none

/-- An operation on two meanings that are neither numbers nor sets. -/
def otherOperation (operation : Operation) (left right : Meaning) : Except Failure Meaning :=
  match operation, left, right with
  | .sum, _, _ => (joined? left right).getD (unsupported operation left right)
  | .product, _, _ =>
      (repeated? left right).getD ((repeated? right left).getD (unsupported operation left right))
  | .remainder, .datum (.text template), _ => filled template right
  | .remainder, .datum (.bytes template), _ => filledBytes template right
  | .union, .dictionary a, .dictionary b => (insertEntries a b).map .dictionary
  | .union, _, _ => alternatives left right
  | _, _, _ => unsupported operation left right

/-- An operation on two meanings. -/
def operate (operation : Operation) (left right : Meaning) : Except Failure Meaning :=
  match left, right with
  | .unknown, _ | _, .unknown => .ok .unknown
  | .datum (.boolean a), .datum (.boolean b) =>
      match truthOperation? a b operation with
      | some result => .ok (truth result)
      | none =>
          (wholeOperation? (if a then 1 else 0) (if b then 1 else 0) operation).getD
            (unsupported operation left right)
  | .set frozen a, .set _ b =>
      match setOperation? frozen a b operation with
      | some result => .ok result
      | none => unsupported operation left right
  | _, _ =>
      match left.numeric?, right.numeric? with
      | some a, some b =>
          (numericOperation? a b operation).getD (unsupported operation left right)
      | _, _ =>
          match complexOperation? left right operation with
          | some result => .ok result
          | none => otherOperation operation left right

/-- Something with a sign before it: a number, or a truth value as a number. -/
def signed (sign : Sign) (operand : Meaning) : Except Failure Meaning :=
  let fail : Except Failure Meaning :=
    .error (.expression (.operand ("unary " ++ sign.mark) operand.typeName))
  match operand, operand.numeric? with
  | .unknown, _ => .ok .unknown
  | .object "complex" shown, _ =>
      if sign = .complement then fail else .ok (.object "complex" shown)
  | _, some (.whole n) =>
      match sign with
      | .plus => .ok (integer n)
      | .minus => .ok (integer (-n))
      | .complement => .ok (integer (-n - 1))
  | _, some (.real d) =>
      match sign, d with
      | .plus, d => .ok (.datum (.double d))
      | .minus, .nan => .ok (.datum (.double .nan))
      | .minus, .infinite negative => .ok (.datum (.double (.infinite !negative)))
      | .minus, .finite negative e f => .ok (.datum (.double (.finite (!negative) e f)))
      | .complement, _ => fail
  | _, none => fail

end DerivedQuery.Meaning
