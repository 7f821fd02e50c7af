import DerivedQuery.Failure

/-!
# Signatures

A signature is a list of parameters. Binding the arguments of a call gives each parameter at most
one value, from its position or by its name, and yields the positional values up to the first
parameter that has none.
-/

set_option autoImplicit false

namespace DerivedQuery

/-- Arguments given by name, in order. -/
abbrev Keywords := List (String × Datum)

/-- The values that parameters have received: one, or for a variadic parameter any number. -/
abbrev Bound := List (String × List Datum)

namespace Signature

/-- Gives positional values to parameters in order. Yields the values and the parameters that may
still be given by name. -/
def bindPositional (keywords : Keywords) :
    List Parameter → List Datum → Except CallFault (Bound × List Parameter)
  | [], [] => .ok ([], [])
  | [], _ :: _ => .error .tooManyPositional
  | parameter :: rest, [] =>
      if parameter.kind = .variadic then .ok ([], rest)
      else if parameter.kind = .positionalOnly ∧ Dictionary.has keywords parameter.name then
        .error (.positionalOnly parameter.name)
      else .ok ([], parameter :: rest)
  | parameter :: rest, value :: values =>
      match parameter.kind with
      | .keywordOnly | .keywordVariadic => .error .tooManyPositional
      | .variadic => .ok ([(parameter.name, value :: values)], rest)
      | kind =>
          if kind ≠ .positionalOnly ∧ Dictionary.has keywords parameter.name then
            .error (.multipleValues parameter.name)
          else do
            let (bound, unfilled) ← bindPositional keywords rest values
            .ok ((parameter.name, [value]) :: bound, unfilled)

/-- Gives values to parameters by name. Yields the values and the arguments that no parameter took.
-/
def bindKeywords (keywords : Keywords) : List Parameter → Except CallFault (Bound × Keywords)
  | [] => .ok ([], keywords)
  | parameter :: rest =>
      match parameter.kind with
      | .variadic | .keywordVariadic => bindKeywords keywords rest
      | kind =>
          match Dictionary.get? keywords parameter.name with
          | none => bindKeywords keywords rest
          | some value =>
              if kind = .positionalOnly then .error (.positionalOnly parameter.name)
              else do
                let others := keywords.filter fun entry => entry.1 != parameter.name
                let (bound, left) ← bindKeywords others rest
                .ok ((parameter.name, [value]) :: bound, left)

/-- The values in the order of the parameters, up to the first parameter without one. -/
def positionalValues (bound : Bound) : List Parameter → List Datum
  | [] => []
  | parameter :: rest =>
      match parameter.kind with
      | .keywordOnly | .keywordVariadic => []
      | _ =>
          match Dictionary.get? bound parameter.name with
          | none => []
          | some values => values ++ positionalValues bound rest

/-- Binds the arguments of a call, of which the receiver is the first, and yields the positional
values without the first of them. -/
def bind (parameters : List Parameter) (arguments : List Datum) (keywords : Keywords) :
    Except CallFault (List Datum) := do
  let (positional, unfilled) ← bindPositional keywords parameters (.null :: arguments)
  let (named, left) ← bindKeywords keywords unfilled
  match left with
  | entry :: _ =>
      if unfilled.any fun parameter => parameter.kind = .keywordVariadic then
        .ok ((positionalValues (positional ++ named) parameters).drop 1)
      else .error (.unexpectedKeyword entry.1)
  | [] => .ok ((positionalValues (positional ++ named) parameters).drop 1)

end Signature

end DerivedQuery
