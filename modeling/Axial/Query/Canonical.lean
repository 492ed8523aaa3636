import Axial.Query.Basic
import Axial.Token

/-!
# The canonical form of queries

A query is written as a row of tokens with single spaces between them. All parameters are written
out, and neighbouring filters with one combinator are sorted, because their order does not matter.

* `AxisLookup.compare` : the order of filters.
* `sortRuns` : filters with each run of one combinator sorted.
* `Query.tokens`, `Query.text` : the canonical form, and likewise for every part of a query.
-/

namespace Axial

/-! ### The order of filters -/

/-- No test comes first; tests are ordered by their comparison, then by their literal. -/
def PropertyTest.compare? : Option PropertyTest → Option PropertyTest → Ordering
  | none, none => .eq
  | none, some _ => .lt
  | some _, none => .gt
  | some a, some b =>
    (compare a.comparison.rank b.comparison.rank).then (compare a.literal b.literal)

/-- Lookups are ordered by the names of the property, then by the test, then by inversion. -/
def AxisLookup.compare (a b : AxisLookup) : Ordering :=
  (Ord.compare a.property.names b.property.names).then
    ((PropertyTest.compare? a.test b.test).then (Ord.compare a.inverted b.inverted))

/-- Whether a filter may stand before another one of the same run. -/
def AxisFilter.le (a b : AxisFilter) : Bool :=
  AxisLookup.compare a.lookup b.lookup != .gt

/-- Sort each maximal run of filters that share a combinator. -/
def sortRuns (filters : List AxisFilter) : List AxisFilter :=
  let runs := filters.splitBy fun a b => a.combinator == b.combinator
  runs.flatMap (·.mergeSort AxisFilter.le)

/-! ### Tokens of the parts -/

/-- The token of an operator between two parts. -/
abbrev Operator.token (op : Operator) : Token := .operator op

/-- A property and the properties that it is followed through. -/
def PropertyChain.tokens (chain : PropertyChain) : List Token :=
  .operand chain.first :: chain.rest.flatMap fun name => [Operator.chain.token, .operand name]

/-- A comparison with a literal. -/
def PropertyTest.tokens (test : PropertyTest) : List Token :=
  [(Operator.compare test.comparison).token, .operand test.literal]

/-- A lookup with its inversion or its test. -/
def AxisLookup.tokens (lookup : AxisLookup) : List Token :=
  (if lookup.inverted then [(Operator.compare .like).token] else [])
    ++ lookup.property.tokens
    ++ (lookup.test.map PropertyTest.tokens).getD []

/-- A filter after its combinator. -/
def AxisFilter.tokens (filter : AxisFilter) : List Token :=
  (Operator.combine filter.combinator).token :: filter.lookup.tokens

/-- An axis and its filters. -/
def FilteredAxis.tokens (axis : FilteredAxis) : List Token :=
  .operand axis.axis :: (sortRuns axis.filters).flatMap AxisFilter.tokens

/-- An entry of an axis. -/
def AxisEntry.tokens (entry : AxisEntry) : List Token :=
  [.operand entry.axis, (Operator.compare .equal).token, .operand entry.entry]

/-- Parameters, each after the separator before it. -/
def Parameters.tokensAfter (separator : Operator) : Parameters → List Token
  | [] => []
  | (name, value) :: more =>
    separator.token :: .operand name :: (Operator.compare .equal).token :: .operand value.text
      :: tokensAfter .comma more

/-- Parameters as they follow the name of an operation. -/
def Parameters.tokens (parameters : Parameters) : List Token :=
  parameters.tokensAfter .semicolon

/-- An operation with its parameters. -/
def Invocation.tokens (invocation : Invocation) : List Token :=
  .operand invocation.name :: invocation.parameters.tokens

/-- Element-wise operations, each after its operator. -/
def eltwiseTokens (eltwise : List Invocation) : List Token :=
  eltwise.flatMap fun invocation => Operator.eltwise.token :: invocation.tokens

/-! ### Tokens of lookups and queries -/

/-- The lookup of a value. -/
def ScalarLookup.tokens : ScalarLookup → List Token
  | scalar name => [.operand name]
  | vectorEntry entry property => entry.tokens ++ Operator.lookup.token :: property.tokens
  | matrixEntry rows columns name =>
    rows.tokens ++ Operator.comma.token :: columns.tokens ++ [Operator.lookup.token, .operand name]

/-- The lookup of a vector. -/
def VectorLookup.tokens : VectorLookup → List Token
  | vector axis property => axis.tokens ++ Operator.lookup.token :: property.tokens
  | matrixSlice axis entry name =>
    axis.tokens ++ Operator.comma.token :: entry.tokens ++ [Operator.lookup.token, .operand name]

/-- The lookup of a matrix. -/
def MatrixLookup.tokens (lookup : MatrixLookup) : List Token :=
  lookup.rows.tokens ++ Operator.comma.token :: lookup.columns.tokens
    ++ [Operator.lookup.token, .operand lookup.name]

/-- A matrix query. -/
def MatrixQuery.tokens (query : MatrixQuery) : List Token :=
  query.lookup.tokens ++ eltwiseTokens query.eltwise

/-- A vector query. -/
def VectorQuery.tokens : VectorQuery → List Token
  | .lookup source eltwise => source.tokens ++ eltwiseTokens eltwise
  | .reduced matrix reduction eltwise =>
    matrix.tokens ++ Operator.reduce.token :: reduction.tokens ++ eltwiseTokens eltwise

/-- A scalar query. -/
def ScalarQuery.tokens : ScalarQuery → List Token
  | .lookup source eltwise => source.tokens ++ eltwiseTokens eltwise
  | .reduced vector reduction eltwise =>
    vector.tokens ++ Operator.reduce.token :: reduction.tokens ++ eltwiseTokens eltwise

/-- A query. -/
def Query.tokens : Query → List Token
  | scalar query => query.tokens
  | vector query => query.tokens
  | matrix query => query.tokens

/-- The canonical form of a query. -/
def Query.text (query : Query) : String :=
  Token.line query.tokens

end Axial
