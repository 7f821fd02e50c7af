import DerivedQuery.Arguments
import DerivedQuery.Clause
import DerivedQuery.Clause.Operator
import DerivedQuery.Datum
import DerivedQuery.Datum.Attribute
import DerivedQuery.Datum.Elements
import DerivedQuery.Datum.Inner
import DerivedQuery.Datum.Key
import DerivedQuery.Datum.KeyText
import DerivedQuery.Datum.Record
import DerivedQuery.Datum.Written
import DerivedQuery.Dictionary
import DerivedQuery.Expression
import DerivedQuery.Expression.Escape
import DerivedQuery.Expression.Fault
import DerivedQuery.Expression.Joined
import DerivedQuery.Expression.Reader
import DerivedQuery.Expression.Reference
import DerivedQuery.Expression.Token
import DerivedQuery.Failure
import DerivedQuery.Filter
import DerivedQuery.Lexicographic
import DerivedQuery.Log
import DerivedQuery.Log.Queries
import DerivedQuery.Log.Settings
import DerivedQuery.Log.Setup
import DerivedQuery.Log.Template
import DerivedQuery.Log.Template.Conversion
import DerivedQuery.Log.Template.Fill
import DerivedQuery.Meaning
import DerivedQuery.Meaning.Attribute
import DerivedQuery.Meaning.Call
import DerivedQuery.Meaning.Class
import DerivedQuery.Meaning.Evaluation
import DerivedQuery.Meaning.Filling
import DerivedQuery.Meaning.Form
import DerivedQuery.Meaning.Function
import DerivedQuery.Meaning.Known
import DerivedQuery.Meaning.Layout
import DerivedQuery.Meaning.Method
import DerivedQuery.Meaning.Operation
import DerivedQuery.Meaning.Part
import DerivedQuery.Meaning.Reference
import DerivedQuery.Meaning.Relation
import DerivedQuery.Method
import DerivedQuery.Method.Execution
import DerivedQuery.Model
import DerivedQuery.Model.Attribute
import DerivedQuery.Model.Catalog
import DerivedQuery.Model.Mapping
import DerivedQuery.Model.Storage
import DerivedQuery.Model.Validation
import DerivedQuery.Name.Property
import DerivedQuery.Name.Word
import DerivedQuery.Number.Arithmetic
import DerivedQuery.Number.Double
import DerivedQuery.Number.Notation
import DerivedQuery.Number.Numeral
import DerivedQuery.Number.Rounded
import DerivedQuery.Number.Shortest
import DerivedQuery.Parameter
import DerivedQuery.Proofs.Agreement
import DerivedQuery.Proofs.Clause.Keyword
import DerivedQuery.Proofs.Datum.Document
import DerivedQuery.Proofs.Dictionary
import DerivedQuery.Proofs.Expression.Reading
import DerivedQuery.Proofs.Expression.Weight
import DerivedQuery.Proofs.Filter.Meets
import DerivedQuery.Proofs.Filter.Tests
import DerivedQuery.Proofs.Logged
import DerivedQuery.Proofs.Meaning.Depth
import DerivedQuery.Proofs.Method.Answering
import DerivedQuery.Proofs.Method.Assembly
import DerivedQuery.Proofs.Method.Binding
import DerivedQuery.Proofs.Method.Construction
import DerivedQuery.Proofs.Method.Meaning
import DerivedQuery.Proofs.Method.Reordering
import DerivedQuery.Proofs.Method.Variation
import DerivedQuery.Proofs.Model.Extension
import DerivedQuery.Proofs.Model.RoundTrip
import DerivedQuery.Proofs.Name.Boundary
import DerivedQuery.Proofs.Name.Camel
import DerivedQuery.Proofs.Name.Joined
import DerivedQuery.Proofs.Name.Pieces
import DerivedQuery.Proofs.Name.Places
import DerivedQuery.Proofs.Name.PlainWord
import DerivedQuery.Proofs.Name.Property
import DerivedQuery.Proofs.Name.Runs
import DerivedQuery.Proofs.Name.Scan
import DerivedQuery.Proofs.Name.Separated
import DerivedQuery.Proofs.Name.Snake
import DerivedQuery.Proofs.Name.Words
import DerivedQuery.Proofs.Number.Exact
import DerivedQuery.Proofs.Passes
import DerivedQuery.Proofs.QueryName.Agreement
import DerivedQuery.Proofs.QueryName.Description
import DerivedQuery.Proofs.QueryName.Grammar
import DerivedQuery.Proofs.QueryName.Opening
import DerivedQuery.Proofs.QueryName.Parts
import DerivedQuery.Proofs.QueryName.Rendering
import DerivedQuery.Proofs.QueryName.RoundTrip
import DerivedQuery.Proofs.QueryName.Spelling
import DerivedQuery.Proofs.Repository.Annotation
import DerivedQuery.Proofs.Repository.Call
import DerivedQuery.Proofs.Repository.Creation
import DerivedQuery.Proofs.Repository.Members
import DerivedQuery.Proofs.Repository.Signature
import DerivedQuery.Proofs.Sorting.Arrangement
import DerivedQuery.Proofs.Sorting.Merge
import DerivedQuery.Proofs.Sorting.OnePass
import DerivedQuery.Proofs.Sorting.Run
import DerivedQuery.Proofs.Sorting.Search
import DerivedQuery.Proofs.Sorting.StableSort
import DerivedQuery.Proofs.Store.Ledger
import DerivedQuery.Proofs.Store.RecordOrder
import DerivedQuery.Proofs.Store.Saving
import DerivedQuery.Proofs.Store.Segment
import DerivedQuery.Proofs.Store.Selection
import DerivedQuery.Proofs.StructuredQuery.Rest
import DerivedQuery.Proofs.Text.Ascii
import DerivedQuery.Proofs.Text.Base64
import DerivedQuery.Proofs.Time.Calendar
import DerivedQuery.Proofs.Time.DayNumber
import DerivedQuery.Proofs.Time.Instant
import DerivedQuery.Proofs.Time.Iso
import DerivedQuery.Proofs.Value.Consistency
import DerivedQuery.Proofs.Value.PlainContent
import DerivedQuery.Proofs.Value.Equivalence
import DerivedQuery.Proofs.Value.Leaf
import DerivedQuery.Proofs.Value.Order
import DerivedQuery.Proofs.Value.Part
import DerivedQuery.Proofs.Value.Rest
import DerivedQuery.Proofs.Value.SortKey
import DerivedQuery.Proofs.Value.Timestamp
import DerivedQuery.Proofs.Value.Unwrap
import DerivedQuery.Proofs.Value.Visit
import DerivedQuery.Proofs.Value.Wrap
import DerivedQuery.QueryName
import DerivedQuery.QueryName.Parse
import DerivedQuery.Report
import DerivedQuery.Repository
import DerivedQuery.Repository.Annotation
import DerivedQuery.Repository.Signature
import DerivedQuery.Sequence
import DerivedQuery.StableSort
import DerivedQuery.StableSort.Merge
import DerivedQuery.StableSort.Run
import DerivedQuery.StableSort.Search
import DerivedQuery.Store
import DerivedQuery.Store.Session
import DerivedQuery.StructuredQuery
import DerivedQuery.Text.Base64
import DerivedQuery.Text.CharName
import DerivedQuery.Text.Clip
import DerivedQuery.Text.DecimalDigit
import DerivedQuery.Text.LetterCase
import DerivedQuery.Text.LetterTable
import DerivedQuery.Text.NameChar
import DerivedQuery.Text.Printable
import DerivedQuery.Text.Quoted
import DerivedQuery.Text.Span
import DerivedQuery.Text.Variant
import DerivedQuery.Time.Calendar
import DerivedQuery.Time.Iso
import DerivedQuery.Time.Moment
import DerivedQuery.Value
import DerivedQuery.Value.Comparison
import DerivedQuery.Value.Equality
import DerivedQuery.Value.Rank
import DerivedQuery.Value.Rest
import DerivedQuery.Value.Wrap
