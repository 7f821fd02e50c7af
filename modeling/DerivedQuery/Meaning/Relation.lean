import DerivedQuery.Failure
import DerivedQuery.Lexicographic
import DerivedQuery.Meaning

/-!
# Relations

Numbers are ordered by size, texts and byte strings by their characters, lists and sequences by the
first place where they differ, and sets by what they hold; nothing else has an order. A collection
holds its elements, and a text its parts.
-/

set_option autoImplicit false

namespace DerivedQuery.Meaning

/-- Does an order satisfy one of the four relations that compare sizes? -/
def Relation.isSatisfiedBy (relation : Relation) (order : Ordering) : Bool :=
  match relation with
  | .less => order == .lt
  | .lessOrEqual => order != .gt
  | .greater => order == .gt
  | .greaterOrEqual => order != .lt
  | _ => false

/-- The order of two data that are no collections; `none` where one is no number at all. Fails where
the data have no order. -/
def datumOrder (a b : Datum) : Except Unit (Option Ordering) :=
  match a, b with
  | .text x, .text y => .ok (some (compareTexts x y))
  | .bytes x, .bytes y => .ok (some (compareBytes x y))
  | _, _ =>
      let isNumber : Datum → Bool
        | .boolean _ | .integer _ | .double _ => true
        | _ => false
      if isNumber a && isNumber b then
        match a.quantity?, b.quantity? with
        | some x, some y => .ok (some (x.compare y))
        | _, _ => .ok none
      else .error ()

/-- Does every element of the first collection equal one of the second? -/
def isWithin (a b : List Meaning) : Bool := a.all fun item => b.any item.same

mutual

/-- Is the first meaning in one of the four relations that compare sizes to the second? -/
def isOrdered (relation : Relation) : Meaning → Meaning → Except Failure Bool
  | .datum a, .datum b =>
      match datumOrder a b with
      | .ok (some order) => .ok (Relation.isSatisfiedBy relation order)
      | .ok none => .ok false
      | .error _ => .error (.expression (.order relation.mark a.typeName b.typeName))
  | .list a, .list b => areOrdered relation a b
  | .tuple a, .tuple b => areOrdered relation a b
  | .set _ a, .set _ b =>
      match relation with
      | .less => .ok (isWithin a b && a.length < b.length)
      | .lessOrEqual => .ok (isWithin a b)
      | .greater => .ok (isWithin b a && b.length < a.length)
      | _ => .ok (isWithin b a)
  | left, right => .error (.expression (.order relation.mark left.typeName right.typeName))

/-- Is the first list in one of the four relations that compare sizes to the second? -/
def areOrdered (relation : Relation) : List Meaning → List Meaning → Except Failure Bool
  | a :: restA, b :: restB =>
      if a.same b then areOrdered relation restA restB else isOrdered relation a b
  | restA, restB =>
      .ok (Relation.isSatisfiedBy relation (compareLists [restA.length] [restB.length]))

end

/-- Does a list of characters contain another one? -/
def containsPart (part : List Char) : List Char → Bool
  | [] => part.isEmpty
  | c :: rest => part.isPrefixOf (c :: rest) || containsPart part rest

/-- Does a collection hold a meaning? -/
def holds (collection item : Meaning) : Except Failure Bool :=
  let misuse (message : String) : Except Failure Bool := .error (.expression (.misuse message))
  match collection, item with
  | .datum (.text content), .datum (.text part) =>
      .ok (containsPart part.toList content.toList)
  | .datum (.text _), other =>
      misuse ("'in <string>' requires string as left operand, not " ++ other.typeName)
  | .datum (.bytes content), .datum (.integer n) =>
      if 0 ≤ n ∧ n < 256 then .ok (content.contains (UInt8.ofNat n.toNat))
      else .error (.expression (.badValue "byte must be in range(0, 256)"))
  | .datum (.bytes content), .datum (.boolean b) => .ok (content.contains (if b then 1 else 0))
  | .datum (.bytes content), .datum (.bytes part) =>
      let chars (bytes : List UInt8) := bytes.map fun byte => Char.ofNat byte.toNat
      .ok (containsPart (chars part) (chars content))
  | .datum (.bytes _), other =>
      misuse ("a bytes-like object is required, not " ++ Text.quoted other.typeName)
  | .set _ items, other => do
      other.checkKey
      .ok (items.any other.same)
  | .dictionary entries, other => do
      other.checkKey
      .ok (entries.any fun entry => entry.1.same other)
  | other, wanted =>
      match other.elements? with
      | some items => .ok (items.any wanted.same)
      | none => misuse ("argument of type " ++ Text.quoted other.typeName ++ " is not iterable")

/-- Are two meanings one and the same? Data of one type that are equal are; of collections it is not
known, and they are taken to be different. -/
def isIdentical (a b : Meaning) : Bool :=
  match a, b with
  | .datum x, .datum y => x.typeName == y.typeName && x.sameKey y
  | .model _, .model _ | .builtinClass _, .builtinClass _ | .form _, .form _ => a.same b
  | .ellipsis, .ellipsis | .function _, .function _ => a.same b
  | .applied true _ _, _ | .either true _, _ | .object _ _, _ => a.same b
  | .spread (.applied true _ _), _ => a.same b
  | .tuple [], .tuple [] => true
  | _, _ => false

/-- Is the first meaning in a relation to the second? Of what is unknown nothing holds. -/
def isRelated (relation : Relation) (left right : Meaning) : Except Failure Meaning :=
  match left, right with
  | .unknown, _ | _, .unknown => .ok .unknown
  | _, _ =>
      match relation with
      | .equal => .ok (truth (left.same right))
      | .unequal => .ok (truth (!left.same right))
      | .identical => .ok (truth (left.isIdentical right))
      | .distinct => .ok (truth (!left.isIdentical right))
      | .among => (right.holds left).map truth
      | .notAmong => (right.holds left).map fun found => truth !found
      | order => (isOrdered order left right).map truth

end DerivedQuery.Meaning
