import Axial.Expr
import Axial.Operation.Parameter

/-!
# Parse errors

Why a text is not a query. A cause keeps what its message quotes; the cleaned query that it
refers to is added once, in `ParseError`.

* `Expectation`, `Finding` : what the grammar asks for at some place, and what stands there.
* `ParseError.message` : the wording.
-/

namespace Axial

/-- What the grammar asks for at some place of a query. -/
inductive Expectation where
  | operand
  | operator
  | propertyLookup
  | scalarLookup
  | vectorLookup
  | matrixLookup
  | matrixQuery
  | oneReductionPerAxis
  | matrixAxes
  | axisEntry
  | entryName
  | filteredAxis
  | axisName
  | comparisonValue
  | propertyName
  | matrixPropertyName
  | operation (kind : OperationKind)
  | parameterAssignment
  | parameterValue
deriving DecidableEq, Repr

/-- An expectation in words. -/
def Expectation.text : Expectation → String
  | operand => "operand"
  | operator => "operator"
  | propertyLookup => "property lookup"
  | scalarLookup => "scalar lookup"
  | vectorLookup => "vector lookup (axis @ property)"
  | matrixLookup => "matrix lookup (rows , columns @ property)"
  | matrixQuery => "matrix query (no reductions)"
  | oneReductionPerAxis => "at most one reduction per axis"
  | matrixAxes => "matrix axes (rows , columns)"
  | axisEntry => "axis entry (axis = entry)"
  | entryName => "entry name"
  | filteredAxis => "filtered axis"
  | axisName => "axis name"
  | comparisonValue => "comparison value"
  | propertyName => "property name"
  | matrixPropertyName => "matrix property name"
  | operation kind => kind.label ++ " operation"
  | parameterAssignment => "parameter assignment (name = value)"
  | parameterValue => "parameter value"

/-- What stands at some place of a query. -/
inductive Finding where
  | token (token : Token)
  | endOfQuery
  | expression (expr : Expr)
deriving DecidableEq, Repr

/-- A finding in words. -/
def Finding.text : Finding → String
  | token (.operand value) => "operand: " ++ Text.escape value
  | token (.operator op) => "operator: " ++ op.symbol
  | endOfQuery => "end of query"
  | expression expr => expr.text

/-- Why a cleaned text is not a query. -/
inductive ParseCause where
  | lexical (fault : LexicalFault)
  | emptyQuery
  /-- The grammar asks for one thing and finds another. -/
  | grammar (expected : Expectation) (found : Finding) (position : Nat)
  | unknownOperation (kind : OperationKind) (operation : String)
  | unknownParameter (kind : OperationKind) (operation parameter : String)
  | duplicateParameter (kind : OperationKind) (operation parameter : String)
  | invalidParameterValue (kind : OperationKind) (operation parameter value : String)
      (expected : ParameterType)
deriving DecidableEq, Repr

/-- The grammar asks for something else than a tree. -/
def ParseCause.unexpected (expected : Expectation) (found : Expr) : ParseCause :=
  .grammar expected (.expression found) found.position

/-- A cleaned text and why it is not a query. -/
structure ParseError where
  query : String
  cause : ParseCause
deriving DecidableEq, Repr

/-- The wording of a parse error. -/
def ParseError.message (error : ParseError) : String :=
  let inQuery := "\nin query: " ++ error.query
  match error.cause with
  | .lexical (.unexpectedCharacter character position) =>
    s!"unexpected character: '{character}'" ++ inQuery ++ s!"\nat position: {position}"
  | .lexical (.danglingEscape _) =>
    "dangling escape character '\\' at the end of query: " ++ error.query
  | .emptyQuery => "empty query"
  | .grammar expected found position =>
    "expected: " ++ expected.text ++ "\nfound: " ++ found.text ++ inQuery
      ++ s!"\nat position: {position}"
  | .unknownOperation kind operation =>
    s!"unknown {kind.label} operation: " ++ operation ++ inQuery
  | .unknownParameter kind operation parameter =>
    "unknown parameter: " ++ parameter ++ s!"\nfor the {kind.label} operation: " ++ operation
      ++ inQuery
  | .duplicateParameter kind operation parameter =>
    "repeated parameter: " ++ parameter ++ s!"\nfor the {kind.label} operation: " ++ operation
      ++ inQuery
  | .invalidParameterValue kind operation parameter value expected =>
    "invalid value: " ++ value ++ "\nfor the parameter: " ++ parameter
      ++ s!"\nof the {kind.label} operation: " ++ operation
      ++ "\nexpected: " ++ expected.description ++ inQuery

end Axial
