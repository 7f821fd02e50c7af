import DerivedQuery.Arguments
import DerivedQuery.Expression.Fault
import DerivedQuery.Log.Template
import DerivedQuery.QueryName.Parse
import DerivedQuery.Report
import DerivedQuery.Text.Clip

/-!
# Failures

Every way in which an operation can fail is a constructor of `Failure`, which holds what is known
about the cause. The class of a failure, its message and its details are functions of the cause.
-/

set_option autoImplicit false

namespace DerivedQuery

/-- What is wrong with the data for one field. -/
inductive DataFault where
  | missing
  /-- The datum is of another type than the one with this code. -/
  | wrongType (code : String)
  | unreadable
  deriving DecidableEq, Repr

namespace DataFault

/-- The code of a fault. -/
def code : DataFault → String
  | .missing => "missing"
  | .wrongType code => code
  | .unreadable => "model_attributes_type"

end DataFault

/-- What is wrong with the arguments of a call. -/
inductive CallFault where
  | tooManyPositional
  | multipleValues (parameter : String)
  | positionalOnly (parameter : String)
  | unexpectedKeyword (keyword : String)
  deriving DecidableEq, Repr

namespace CallFault

/-- The message for a fault. -/
def message : CallFault → String
  | .tooManyPositional => "too many positional arguments"
  | .multipleValues parameter => "multiple values for argument " ++ Text.quoted parameter
  | .positionalOnly parameter =>
      Text.quoted parameter ++ " parameter is positional only, but was passed as a keyword"
  | .unexpectedKeyword keyword => "got an unexpected keyword argument " ++ Text.quoted keyword

end CallFault

/-- What lacks an attribute; messages name it in different ways. -/
inductive AttributeOwner where
  /-- An entity or a store value, by its type. -/
  | described (typeName : String)
  /-- Any other object, by its type. -/
  | object (typeName : String)
  /-- A class, by its name. -/
  | classObject (name : String)
  /-- An entity whose model has the attribute for itself. -/
  | classOnly (modelName : String)
  /-- A model, which is not named. -/
  | model
  deriving DecidableEq, Repr

namespace AttributeOwner

/-- The message for an attribute that is not there. Only the names of entities and store values and
of their attributes are quoted with escapes; others are put between marks, long type names clipped.
-/
def message (owner : AttributeOwner) (wanted : String) : String :=
  let plain (kind name ending : String) :=
    kind ++ "'" ++ Text.clip 50 name ++ "'" ++ ending ++ " has no attribute '" ++ wanted ++ "'"
  match owner with
  | .described typeName =>
      Text.quoted typeName ++ " object has no attribute " ++ Text.quoted wanted
  | .object typeName => plain "" typeName " object"
  | .classObject name => plain "type object " name ""
  | .classOnly modelName =>
      Text.quoted wanted ++ " attribute of " ++ Text.quoted modelName ++ " is class-only"
  | .model => wanted

end AttributeOwner

/-- The classes of failures. -/
inductive FailureClass where
  | general
  | invalidMethodName
  | unsupportedQueryShape
  | unsupportedPredicateOperator
  | tooFewArguments
  | unsupportedValueType
  | mapping
  | propertyNotFound
  | type
  | value
  | overflow
  | attribute
  | name
  | key
  | index
  | zeroDivision
  | syntaxError
  | runtime
  | recursion
  | validation
  deriving DecidableEq, Repr

namespace FailureClass

/-- Failures about the description of entities. -/
def isMapping : FailureClass → Bool
  | .mapping | .propertyNotFound => true
  | _ => false

end FailureClass

/-- Why an operation failed. -/
inductive Failure where
  /-- A method name is no query name. -/
  | badName (fault : NameFault) (method : String)
  /-- A query name asks for deletion. -/
  | deleteQuery (method : String)
  /-- A query name asks for distinct results. -/
  | distinctQuery (method : String)
  /-- A query name joins groups of clauses by `Or`. -/
  | disjunctiveQuery (method : String)
  /-- A clause has an operator that the datastore cannot filter on. -/
  | operator (method property : String) (unsupported : Operator)
  /-- A call has fewer arguments than the clauses take. -/
  | tooFewArguments (method : String) (consumed : Nat)
  /-- A datum has no store type. -/
  | unsupportedType (typeName : String)
  /-- A moment lies outside the calendar in UTC. -/
  | momentOutOfRange
  /-- An integer is written with too many digits. -/
  | longInteger (digits : Nat)
  /-- An integer has too many digits to be written. -/
  | unwrittenInteger
  /-- A type reference is no model. -/
  | notAModel (reference : String)
  /-- A property is no field of the model. -/
  | noSuchProperty (property model kind : String)
  /-- An entity is of another model. -/
  | otherModel (expected actual kind : String)
  /-- A repository has no entity type. -/
  | noEntityType (repository : String)
  /-- Data do not fit a model. -/
  | invalidData (faults : List (String × DataFault))
  /-- An environment variable has no valid value. -/
  | invalidSetting (name code : String)
  /-- Something has no such attribute. -/
  | noAttribute (owner : AttributeOwner) (wanted : String)
  /-- An object cannot be taken apart. -/
  | notIterable (typeName : String)
  /-- An object cannot be called. -/
  | notCallable (typeName : String)
  /-- A datum that may change is used as a key. -/
  | unhashable (typeName : String)
  /-- An element of what should become a dictionary has no elements. -/
  | noPair (position : Nat)
  /-- An element of what should become a dictionary is no pair. -/
  | pairLength (position length : Nat)
  /-- The name of a detail is taken. -/
  | takenDetail (name : String)
  /-- A model takes its data by name only. -/
  | positionalData (count : Nat)
  /-- A class takes no arguments. -/
  | classArguments (name : String)
  /-- The initializer of a class gives something back. -/
  | initializerResult (typeName : String)
  /-- A template and its arguments do not fit. -/
  | template (fault : TemplateFault)
  /-- An expression cannot be read, or its operands do not fit. -/
  | expression (fault : ExpressionFault)
  /-- The arguments of a call do not fit the signature. -/
  | call (fault : CallFault)
  /-- The arguments of a call do not fit the parameters of what is called. -/
  | arguments (callee : String) (fault : ArgumentFault)
  /-- A conjunction of no filters. -/
  | emptyConjunction
  /-- A sort order of no keys. -/
  | emptyOrder
  /-- No query method is kept under a label. -/
  | unknownLabel (label : String)
  /-- A query without a kind. -/
  | noKind
  /-- The datastore failed. -/
  | backend (message : String)
  deriving Repr

namespace Failure

/-- The class of a fault of a template. -/
def templateClass : TemplateFault → FailureClass
  | .missingKey _ => .key
  | .unfinished | .unfinishedKey | .widthTooLarge | .precisionTooLarge | .unknownConversion _ _
  | .wholeOfNaN => .value
  | .measureTooLarge _ | .characterOutOfRange | .wholeOfInfinity | .doubleOutOfRange => .overflow
  | _ => .type

/-- The class of a fault of an expression. -/
def expressionClass : ExpressionFault → FailureClass
  | .unreadable _ => .syntaxError
  | .unknownName _ => .name
  | .empty | .outOfRange _ | .noArgument _ | .emptyPop | .largeIndex => .index
  | .missingKey _ => .key
  | .nullCharacter | .badValue _ => .value
  | .largeQuotient => .overflow
  | .zeroDivision _ => .zeroDivision
  | .tooDeep => .recursion
  | _ => .type

/-- The class of a failure. -/
def failureClass : Failure → FailureClass
  | .badName (.longLimit _) _ => .value
  | .badName _ _ => .invalidMethodName
  | .deleteQuery _ | .distinctQuery _ | .disjunctiveQuery _ => .unsupportedQueryShape
  | .operator _ _ _ => .unsupportedPredicateOperator
  | .tooFewArguments _ _ => .tooFewArguments
  | .unsupportedType _ => .unsupportedValueType
  | .momentOutOfRange => .overflow
  | .notAModel _ | .otherModel _ _ _ | .noEntityType _ => .mapping
  | .noSuchProperty _ _ _ => .propertyNotFound
  | .invalidData _ | .invalidSetting _ _ => .validation
  | .noAttribute _ _ => .attribute
  | .call _ | .arguments _ _ | .emptyConjunction | .emptyOrder | .notIterable _
  | .notCallable _ | .unhashable _ | .noPair _ | .takenDetail _ | .positionalData _
  | .classArguments _ | .initializerResult _ => .type
  | .unknownLabel _ => .key
  | .template fault => templateClass fault
  | .expression fault => expressionClass fault
  | .noKind | .pairLength _ _ | .longInteger _ | .unwrittenInteger => .value
  | .backend _ => .runtime

/-- The message and the details of a failure. -/
def report : Failure → Report
  | .badName (.longLimit digits) _ => .plain (NameFault.longLimit digits).message
  | .badName fault method => .ofText fault.message [("method_name", .text method)]
  | .deleteQuery method =>
      .ofText ("Delete queries are not supported in the datastore: " ++ method)
        [("method_name", .text method)]
  | .distinctQuery method =>
      .ofText "Datastore structured queries do not support the Distinct keyword"
        [("method_name", .text method)]
  | .disjunctiveQuery method =>
      .ofText "The datastore only supports multiple filters combined with AND"
        [("method_name", .text method)]
  | .operator method property unsupported =>
      .ofText ("Only equals, greater-than-or-equals, greater-than, less-than-or-equals, " ++
          "less-than, is-null and is-empty are supported filters")
        [("method_name", .text method), ("property_name", .text property),
          ("operator", .text unsupported.name)]
  | .tooFewArguments method consumed =>
      .ofText ("Too few parameters are provided for query method: " ++ method)
        [("method_name", .text method), ("consumed", .integer consumed)]
  | .unsupportedType typeName =>
      .ofText ("Unable to convert " ++ typeName ++ " to a datastore supported type")
        [("value_type", .text typeName)]
  | .momentOutOfRange => .plain "date value out of range"
  | .longInteger digits => .plain (Numeral.tooManyDigits digits)
  | .unwrittenInteger => .plain Numeral.notWritten
  | .notAModel reference =>
      .ofText "Entity types must be pydantic models" [("entity_type", .text reference)]
  | .noSuchProperty property model kind =>
      .ofText ("No property " ++ Text.quoted property ++ " found on " ++ model)
        [("property_name", .text property), ("kind", .text kind)]
  | .otherModel expected actual kind =>
      .ofText ("Expected " ++ expected ++ ", got " ++ actual) [("kind", .text kind)]
  | .noEntityType repository =>
      .ofText "Repository must declare its entity type, e.g. DatastoreRepository[Person]"
        [("repository", .text repository)]
  | .invalidData _ | .invalidSetting _ _ => .plain ""
  | .noAttribute owner wanted => .plain (owner.message wanted)
  | .notIterable typeName => .plain (Text.quoted typeName ++ " object is not iterable")
  | .notCallable typeName => .plain (Text.quoted typeName ++ " object is not callable")
  | .unhashable typeName => .plain ("unhashable type: " ++ Text.quoted typeName)
  | .noPair position =>
      .plain ("cannot convert dictionary update sequence element #" ++ toString position ++
        " to a sequence")
  | .pairLength position length =>
      .plain ("dictionary update sequence element #" ++ toString position ++ " has length " ++
        toString length ++ "; 2 is required")
  | .takenDetail name =>
      .plain ("PartQueryError.__init__() got multiple values for argument " ++ Text.quoted name)
  | .positionalData count =>
      .plain ("BaseModel.__init__() takes 1 positional argument but " ++ toString (count + 1) ++
        " were given")
  | .classArguments name => .plain (name ++ "() takes no arguments")
  | .initializerResult typeName =>
      .plain ("__init__() should return None, not " ++ Text.quoted typeName)
  | .unknownLabel label => .plain (Text.quoted label)
  | .template fault => .plain fault.message
  | .expression fault => .plain fault.message
  | .call fault => .plain fault.message
  | .arguments callee fault => .plain (callee ++ "() " ++ fault.message)
  | .emptyConjunction =>
      .plain "CompositeFilter.and_() missing 1 required positional argument: 'first'"
  | .emptyOrder =>
      .plain "QueryBuilder.set_order_by() missing 1 required positional argument: 'first'"
  | .noKind => .plain "Query kind must be set before build()"
  | .backend message => .plain message

/-- The whole text of a failure. -/
def text (failure : Failure) : String := failure.report.text

/-- The faults of single inputs, by place and code, where a failure is about data. -/
def faults : Failure → List (String × String)
  | .invalidData faults => faults.map fun fault => (fault.1, fault.2.code)
  | .invalidSetting name code => [(name, code)]
  | _ => []

end Failure

end DerivedQuery
