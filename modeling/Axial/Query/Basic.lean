import Axial.Operation.Parameter
import Axial.Operator

/-!
# Queries

What a query asks for. The number of axes that stay in the answer is the arity of a query: none
for a scalar, one for a vector, two for a matrix.

* `AxisLookup` : a property of the entries of an axis, followed from axis to axis, and inverted
  or compared.
* `FilteredAxis` : an axis and the filters that mask it.
* `ScalarQuery`, `VectorQuery`, `MatrixQuery`, `Query` : the queries by arity.
-/

namespace Axial

/-! ### Properties -/

/-- A property of an axis, and the properties that it is followed through. -/
structure PropertyChain where
  first : String
  rest : List String
deriving DecidableEq, Repr

/-- The names of a chain in written order. -/
def PropertyChain.names (chain : PropertyChain) : List String :=
  chain.first :: chain.rest

/-- A comparison with a literal. -/
structure PropertyTest where
  comparison : Comparison
  literal : String
deriving DecidableEq, Repr

/-- The values of a property along an axis. -/
structure AxisLookup where
  property : PropertyChain
  /-- The literal that the values are compared to. -/
  test : Option PropertyTest
  /-- Whether truth values are negated. -/
  inverted : Bool
deriving DecidableEq, Repr

/-! ### Axes -/

/-- One more filter on an axis. -/
structure AxisFilter where
  combinator : Combinator
  lookup : AxisLookup
deriving DecidableEq, Repr

/-- An axis and its filters in written order. -/
structure FilteredAxis where
  axis : String
  filters : List AxisFilter
deriving DecidableEq, Repr

/-- One entry of an axis. -/
structure AxisEntry where
  axis : String
  entry : String
deriving DecidableEq, Repr

/-! ### Operations -/

/-- An operation and the values of its parameters. -/
structure Invocation where
  name : String
  parameters : Parameters
deriving DecidableEq

/-! ### Lookups -/

/-- Where a single value comes from. -/
inductive ScalarLookup where
  | scalar (name : String)
  | vectorEntry (entry : AxisEntry) (property : AxisLookup)
  | matrixEntry (rows columns : AxisEntry) (name : String)
deriving DecidableEq, Repr

/-- Where the values along one axis come from. -/
inductive VectorLookup where
  | vector (axis : FilteredAxis) (property : AxisLookup)
  /-- The values of a matrix along one axis, at one entry of the other. -/
  | matrixSlice (axis : FilteredAxis) (entry : AxisEntry) (name : String)
deriving DecidableEq, Repr

/-- Where the values along two axes come from. -/
structure MatrixLookup where
  rows : FilteredAxis
  columns : FilteredAxis
  name : String
deriving DecidableEq, Repr

/-! ### Queries by arity -/

/-- A matrix and the operations on its values. -/
structure MatrixQuery where
  lookup : MatrixLookup
  eltwise : List Invocation
deriving DecidableEq

/-- A vector, looked up or reduced from a matrix, and the operations on its values. -/
inductive VectorQuery where
  | lookup (lookup : VectorLookup) (eltwise : List Invocation)
  | reduced (matrix : MatrixQuery) (reduction : Invocation) (eltwise : List Invocation)
deriving DecidableEq

/-- A value, looked up or reduced from a vector, and the operations on it. -/
inductive ScalarQuery where
  | lookup (lookup : ScalarLookup) (eltwise : List Invocation)
  | reduced (vector : VectorQuery) (reduction : Invocation) (eltwise : List Invocation)
deriving DecidableEq

/-- A query of any arity. -/
inductive Query where
  | scalar (query : ScalarQuery)
  | vector (query : VectorQuery)
  | matrix (query : MatrixQuery)
deriving DecidableEq

/-- The number of axes in the answer. -/
def Query.arity : Query → Nat
  | scalar _ => 0
  | vector _ => 1
  | matrix _ => 2

end Axial
