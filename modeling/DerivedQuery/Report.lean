import DerivedQuery.Datum.Written
import DerivedQuery.Dictionary

/-!
# Error reports

A report is a message with named details. Its text shows the details in parentheses behind the
message, or alone when the message is empty. The message is a text, but any datum may be given for
it.
-/

set_option autoImplicit false

namespace DerivedQuery

/-- A message with details. -/
structure Report where
  message : Datum
  details : List (String × Datum)
  deriving Repr

namespace Report

/-- A report with a text as its message. -/
def ofText (message : String) (details : List (String × Datum)) : Report :=
  ⟨.text message, details⟩

/-- A report without details. -/
def plain (message : String) : Report := ofText message []

/-- The report made of a message and details given by name. The names of the report itself and of
its message belong to these two alone: the first detail that takes one that is given already is the
fault. Without a message, the detail of that name is the message. -/
def ofDetails (message : Option Datum) (details : List (String × Datum)) : Except String Report :=
  let entries := Dictionary.ofEntries details
  let taken := if message.isSome then ["self", "message"] else ["self"]
  match entries.find? fun entry => taken.contains entry.1 with
  | some entry => .error entry.1
  | none =>
      let given := message.orElse fun _ => Dictionary.get? entries "message"
      .ok ⟨given.getD (.text ""), entries.filter fun entry => entry.1 != "message"⟩

/-- The message with its details. -/
def text (report : Report) : String :=
  let details :=
    ", ".intercalate (report.details.map fun entry => entry.1 ++ "=" ++ entry.2.written)
  if report.details.isEmpty then report.message.plainText
  else if report.message.isTrue then report.message.plainText ++ " (" ++ details ++ ")"
  else details

/-- The two parts of a report behind the name of its class. -/
def written (label : String) (report : Report) : String :=
  label ++ "(message=" ++ report.message.written ++ ", details=" ++
    (Datum.object report.details).written ++ ")"

/-- A detail by its name. -/
def detail? (report : Report) (name : String) : Option Datum :=
  Dictionary.get? report.details name

end Report

end DerivedQuery
