import DerivedQuery.Meaning.Form
import DerivedQuery.Meaning.Operation

/-!
# Parts

An index picks an element from a sequence, counted from the end where it is negative; a slice picks
several; a key picks a value from a dictionary. In all other cases square brackets give arguments to
a type.
-/

set_option autoImplicit false

namespace DerivedQuery.Meaning

/-- An end of a slice, moved into a range of positions; what is counted from the end starts there.
-/
def sliceEnd (length lowest highest default : Int) (given : Option Int) : Int :=
  match given with
  | none => default
  | some n => min highest (max lowest (if n < 0 then n + length else n))

/-- The positions that a slice of a sequence picks. The step is not zero. -/
def slicePositions (length : Nat) (first last : Option Int) (step : Int) : List Nat :=
  let size : Int := length
  let (lowest, highest) := if step < 0 then (-1, size - 1) else (0, size)
  let start := sliceEnd size lowest highest (if step < 0 then highest else lowest) first
  let stop := sliceEnd size lowest highest (if step < 0 then lowest else highest) last
  let span := if step < 0 then start - stop else stop - start
  let count := (span + step.natAbs - 1).fdiv step.natAbs
  (List.range count.toNat).map fun i : Nat => (start + step * i).toNat

/-- A part of a slice: a whole number, or nothing. -/
def slicePart (part : Meaning) : Except Failure (Option Int) :=
  match part, part.wholeNumber? with
  | .datum .null, _ => .ok none
  | _, some n => .ok (some n)
  | _, none =>
      .error (.expression (.misuse
        "slice indices must be integers or None or have an __index__ method"))

/-- The elements of a sequence that a slice picks. -/
def sliced {α : Type} (items : List α) (first last step : Meaning) : Except Failure (List α) := do
  let stride ← slicePart step
  if stride = some 0 then .error (.expression (.badValue "slice step cannot be zero"))
  else do
    let start ← slicePart first
    let stop ← slicePart last
    .ok ((slicePositions items.length start stop (stride.getD 1)).filterMap fun i => items[i]?)

/-- The element of a sequence at an index, which must not be larger than a position can be. -/
def element {α : Type} (phrase : String) (items : List α) (index : Int) : Except Failure α :=
  let position := if index < 0 then index + items.length else index
  if Int.pow 2 63 ≤ index ∨ index < -Int.pow 2 63 then .error (.expression .largeIndex) else
  match if position < 0 then none else items[position.toNat]? with
  | some item => .ok item
  | none => .error (.expression (.outOfRange phrase))

/-- What an index picks from a sequence: one of its elements, or a sequence of some of them. -/
def picked {α : Type} (outside wanted : String) (quotes : Bool) (items : List α)
    (one : α → Meaning) (several : List α → Meaning) (index : Meaning) : Except Failure Meaning :=
  match index, index.wholeNumber? with
  | .unknown, _ => .ok .unknown
  | .slice first last step, _ => (sliced items first last step).map several
  | _, some n => (element outside items n).map one
  | _, none =>
      let actual := if quotes then Text.quoted index.typeName else index.typeName
      .error (.expression (.wrongIndex wanted actual))

/-- The part of a meaning at an index, or a type with arguments. -/
def part (base index : Meaning) : Except Failure Meaning :=
  match base with
  | .datum (.text content) =>
      picked "string index" "string indices must be integers" true content.toList
        (fun c => text c.toString) (fun cs => text (String.ofList cs)) index
  | .datum (.bytes content) =>
      picked "index" "byte indices must be integers or slices" false content
        (fun byte => integer byte.toNat) (fun bytes => .datum (.bytes bytes)) index
  | .list items =>
      picked "list index" "list indices must be integers or slices" false items id .list index
  | .tuple items =>
      picked "tuple index" "tuple indices must be integers or slices" false items id .tuple index
  | .dictionary entries => do
      index.checkKey
      match entries.find? fun entry => entry.1.same index with
      | some entry => .ok entry.2
      | none => .error (.expression (.missingKey index.written))
  | _ => apply base index

end DerivedQuery.Meaning
