import DerivedQuery.Log.Template.Conversion

/-!
# Filling templates

The places of a template take the arguments one after the other. A single argument that is a
dictionary with entries may also be taken apart: a place with a key takes the value under the key.
The first place whose argument does not fit decides the fault, and arguments that are left over are
one as well, unless they come from a dictionary.
-/

set_option autoImplicit false

namespace DerivedQuery

/-- The arguments that no place has taken yet. -/
structure TemplateArguments where
  /-- The entries that keys refer to, where the arguments are a dictionary. -/
  mapping : Option (List (Datum × Datum))
  waiting : List Datum

namespace TemplateArguments

/-- The arguments for a template. -/
def ofList : List Datum → TemplateArguments
  | [.dict (entry :: rest)] => ⟨some (entry :: rest), [.dict (entry :: rest)]⟩
  | arguments => ⟨none, arguments⟩

/-- The next argument. -/
def next (arguments : TemplateArguments) : Except TemplateFault (Datum × TemplateArguments) :=
  match arguments.waiting with
  | [] => .error .tooFewArguments
  | argument :: rest => .ok (argument, { arguments with waiting := rest })

/-- The arguments behind a key: the value under it alone. -/
def openKey (arguments : TemplateArguments) (key : PlaceKey) :
    Except TemplateFault TemplateArguments :=
  match key, arguments.mapping with
  | .absent, _ => .ok arguments
  | _, none => .error .noMapping
  | .unclosed, some _ => .error .unfinishedKey
  | .closed key, some entries =>
      match Datum.valueUnder? entries key with
      | none => .error (.missingKey key)
      | some value => .ok { arguments with waiting := [value] }

/-- The whole number that the next argument is. -/
def nextWhole (arguments : TemplateArguments) : Except TemplateFault (Int × TemplateArguments) := do
  let (argument, rest) ← arguments.next
  match argument with
  | .integer n => .ok (n, rest)
  | .boolean b => .ok ((if b then 1 else 0), rest)
  | _ => .error .measureNotWhole

/-- The width of a place; a negative argument asks for the left end. -/
def width (arguments : TemplateArguments) (flags : List Char) :
    Option Measure → Except TemplateFault (Layout × TemplateArguments)
  | none => .ok (⟨flags, 0, none, flags.contains '-'⟩, arguments)
  | some (.given n) =>
      if Nat.pow 2 63 ≤ n then .error .widthTooLarge
      else .ok (⟨flags, n, none, flags.contains '-'⟩, arguments)
  | some .argument => do
      let (n, rest) ← arguments.nextWhole
      if n < -Int.pow 2 63 ∨ Int.pow 2 63 ≤ n then .error (.measureTooLarge "ssize_t")
      else .ok (⟨flags, n.natAbs, none, flags.contains '-' || decide (n < 0)⟩, rest)

/-- The precision of a place; a negative argument counts as zero. -/
def precision (arguments : TemplateArguments) :
    Option Measure → Except TemplateFault (Option Nat × TemplateArguments)
  | none => .ok (none, arguments)
  | some (.given n) =>
      if Nat.pow 2 31 ≤ n then .error .precisionTooLarge else .ok (some n, arguments)
  | some .argument => do
      let (n, rest) ← arguments.nextWhole
      if n < -Int.pow 2 31 ∨ Int.pow 2 31 ≤ n then .error (.measureTooLarge "int")
      else .ok (some n.toNat, rest)

/-- The text for a place, and the arguments that are left. -/
def fillPlace (arguments : TemplateArguments) (place : Place) :
    Except TemplateFault (List Char × TemplateArguments) := do
  let arguments ← arguments.openKey place.key
  let (layout, arguments) ← arguments.width place.flags place.width
  let (precision, arguments) ← arguments.precision place.precision
  match place.conversion with
  | none => .error .unfinished
  | some (conversion, position) => do
      let (argument, rest) ← arguments.next
      let text ← { layout with precision }.convert conversion position argument
      .ok (text, rest)

/-- The characters of the parts of a template with the arguments filled in. -/
def fill (arguments : TemplateArguments) : List TemplatePart → Except TemplateFault (List Char)
  | [] =>
      if arguments.mapping.isNone && !arguments.waiting.isEmpty then .error .tooManyArguments
      else .ok []
  | .plain c :: rest => do
      let text ← fill arguments rest
      .ok (c :: text)
  | .place place :: rest => do
      let (text, left) ← fillPlace arguments place
      let more ← fill left rest
      .ok (text ++ more)

end TemplateArguments

namespace Template

/-- A template with its arguments filled in. -/
def fill (template : String) (arguments : List Datum) : Except TemplateFault String :=
  if arguments.isEmpty then .ok template
  else
    let cs := template.toList
    ((TemplateArguments.ofList arguments).fill (templateParts cs.length cs)).map String.ofList

end Template

end DerivedQuery
