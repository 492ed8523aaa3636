import Axial.Query.Basic
import Axial.Operation.Registry
import Axial.Expr.Parser

/-!
# Queries of expressions

A tree is read as a query from its root down. The operators at the root tell the arity: the number
of axes that the lookup names without an entry, less one for each reduction.

* `AxisLookup.ofExpr`, `FilteredAxis.ofExpr`, … : the parts of a query.
* `Invocation.ofExpr` : an operation with its parameters checked against a registry and completed.
* `Query.ofExpr`, `Query.parse` : a query of the arity that its tree tells.
* `ScalarQuery.parse`, `VectorQuery.parse`, `MatrixQuery.parse` : a query of a given arity.
-/

namespace Axial

open ParseCause (unexpected)

/-- The value of a tree that has to be a single operand. -/
def Expr.name (expected : Expectation) : Expr → Except ParseCause String
  | .operand value _ => .ok value
  | expr => .error (unexpected expected expr)

/-! ### Properties -/

/-- Names joined by `:`. -/
def PropertyChain.ofExpr : Expr → Except ParseCause PropertyChain
  | .binary .chain _ left right => do
    let first ← left.name .propertyName
    let rest ← PropertyChain.ofExpr right
    return ⟨first, rest.names⟩
  | expr => do return ⟨← expr.name .propertyName, []⟩

/-- A property, alone, after a `~`, or compared to a literal. -/
def AxisLookup.ofExpr : Expr → Except ParseCause AxisLookup
  | .inverted _ inner => do return ⟨← PropertyChain.ofExpr inner, none, true⟩
  | .binary (.compare comparison) _ left right => do
    let property ← PropertyChain.ofExpr left
    let literal ← right.name .comparisonValue
    return ⟨property, some ⟨comparison, literal⟩, false⟩
  | expr => do return ⟨← PropertyChain.ofExpr expr, none, false⟩

/-! ### Axes -/

/-- The filters that follow a combinator. -/
def AxisFilter.listOfExpr (combinator : Combinator) : Expr → Except ParseCause (List AxisFilter)
  | .binary (.combine next) _ left right => do
    let lookup ← AxisLookup.ofExpr left
    let more ← AxisFilter.listOfExpr next right
    return ⟨combinator, lookup⟩ :: more
  | expr => do return [⟨combinator, ← AxisLookup.ofExpr expr⟩]

/-- An axis, alone or with filters. -/
def FilteredAxis.ofExpr : Expr → Except ParseCause FilteredAxis
  | .operand axis _ => .ok ⟨axis, []⟩
  | .binary (.combine combinator) _ left right => do
    let axis ← left.name .axisName
    let filters ← AxisFilter.listOfExpr combinator right
    return ⟨axis, filters⟩
  | expr => .error (unexpected .filteredAxis expr)

/-- An axis and one of its entries. -/
def AxisEntry.ofExpr : Expr → Except ParseCause AxisEntry
  | .binary (.compare .equal) _ left right => do
    let axis ← left.name .axisEntry
    let entry ← right.name .entryName
    return ⟨axis, entry⟩
  | expr => .error (unexpected .axisEntry expr)

/-! ### Operations -/

/-- A parameter and the literal that is assigned to it. -/
abbrev Assignment := String × String

/-- The assignment of one parameter. -/
def Assignment.ofExpr : Expr → Except ParseCause Assignment
  | .binary (.compare .equal) _ left right => do
    let name ← left.name .parameterAssignment
    let literal ← right.name .parameterValue
    return (name, literal)
  | expr => .error (unexpected .parameterAssignment expr)

/-- Assignments separated by commas. -/
def Assignment.listOfExpr : Expr → Except ParseCause (List Assignment)
  | .binary .comma _ left right => do
    let assignment ← Assignment.ofExpr left
    let more ← Assignment.listOfExpr right
    return assignment :: more
  | expr => do return [← Assignment.ofExpr expr]

/-- Check that every assigned parameter is one of the operation's, and none of those before it. -/
def checkAssignments (kind : OperationKind) (signature : Signature) (operation : String)
    (before : List String) : List Assignment → Except ParseCause Unit
  | [] => .ok ()
  | (name, _) :: more =>
    if (signature.parameter? name).isNone then
      .error (.unknownParameter kind operation name)
    else if name ∈ before then .error (.duplicateParameter kind operation name)
    else checkAssignments kind signature operation (name :: before) more

/-- The value of a declared parameter: the assigned one, or else its default. -/
def assignedValue (kind : OperationKind) (operation : String) (assignments : List Assignment)
    (spec : ParameterSpec) : Except ParseCause (String × ParameterValue) :=
  match assignments.lookup spec.name with
  | none => .ok (spec.name, spec.default)
  | some literal =>
    match spec.type.parse? literal with
    | some value => .ok (spec.name, value)
    | none => .error (.invalidParameterValue kind operation spec.name literal spec.type)

/-- The invocation of an operation with some of its parameters assigned: all its parameters in
the order of its signature. -/
def Invocation.resolve (registry : Registry) (kind : OperationKind) (operation : String)
    (assignments : List Assignment) : Except ParseCause Invocation :=
  match registry.signature? kind operation with
  | none => .error (.unknownOperation kind operation)
  | some signature => do
    checkAssignments kind signature operation [] assignments
    let parameters ← signature.parameters.mapM (assignedValue kind operation assignments)
    return ⟨operation, parameters⟩

/-- An operation, alone or with assignments after a `;`. -/
def Invocation.ofExpr (registry : Registry) (kind : OperationKind) :
    Expr → Except ParseCause Invocation
  | .binary .semicolon _ left right => do
    let operation ← left.name (.operation kind)
    let assignments ← Assignment.listOfExpr right
    Invocation.resolve registry kind operation assignments
  | expr => do
    let operation ← expr.name (.operation kind)
    Invocation.resolve registry kind operation []

/-- Element-wise operations joined by `%`. -/
def eltwiseOfExpr (registry : Registry) : Expr → Except ParseCause (List Invocation)
  | .binary .eltwise _ left right => do
    let invocation ← Invocation.ofExpr registry .eltwise left
    let more ← eltwiseOfExpr registry right
    return invocation :: more
  | expr => do return [← Invocation.ofExpr registry .eltwise expr]

/-- What a stage starts with, and the element-wise operations after it. -/
def stageOfExpr (registry : Registry) : Expr → Except ParseCause (Expr × List Invocation)
  | .binary .eltwise _ left right => do return (left, ← eltwiseOfExpr registry right)
  | expr => .ok (expr, [])

/-- A reduction and the element-wise operations after it. -/
def reductionOfExpr (registry : Registry) :
    Expr → Except ParseCause (Invocation × List Invocation)
  | .binary .eltwise _ left right => do
    let reduction ← Invocation.ofExpr registry .reduction left
    let eltwise ← eltwiseOfExpr registry right
    return (reduction, eltwise)
  | expr => do return (← Invocation.ofExpr registry .reduction expr, [])

/-! ### Lookups -/

/-- The lookup of a scalar, of an entry of a vector, or of an entry of a matrix. -/
def ScalarLookup.ofExpr : Expr → Except ParseCause ScalarLookup
  | .operand name _ => .ok (.scalar name)
  | .binary .lookup _ (.binary .comma _ left right) property => do
    let rows ← AxisEntry.ofExpr left
    let columns ← AxisEntry.ofExpr right
    return .matrixEntry rows columns (← property.name .matrixPropertyName)
  | .binary .lookup _ axes property => do
    let entry ← AxisEntry.ofExpr axes
    return .vectorEntry entry (← AxisLookup.ofExpr property)
  | expr => .error (unexpected .scalarLookup expr)

/-- The lookup of a vector, or of a slice of a matrix. In a slice the entry may stand first. -/
def VectorLookup.ofExpr : Expr → Except ParseCause VectorLookup
  | .binary .lookup _ (.binary .comma _ left right) property => do
    let (axis, entry) := if left.isEntry && !right.isEntry then (right, left) else (left, right)
    let axis ← FilteredAxis.ofExpr axis
    let entry ← AxisEntry.ofExpr entry
    return .matrixSlice axis entry (← property.name .matrixPropertyName)
  | .binary .lookup _ axes property => do
    let axis ← FilteredAxis.ofExpr axes
    return .vector axis (← AxisLookup.ofExpr property)
  | expr => .error (unexpected .vectorLookup expr)

/-- The lookup of a matrix. -/
def MatrixLookup.ofExpr : Expr → Except ParseCause MatrixLookup
  | .binary .lookup _ (.binary .comma _ left right) property => do
    let rows ← FilteredAxis.ofExpr left
    let columns ← FilteredAxis.ofExpr right
    return ⟨rows, columns, ← property.name .matrixPropertyName⟩
  | .binary .lookup _ axes _ => .error (unexpected .matrixAxes axes)
  | expr => .error (unexpected .matrixLookup expr)

/-! ### Queries of a given arity -/

/-- A matrix query; it holds no reduction. -/
def MatrixQuery.ofExpr (registry : Registry) (expr : Expr) : Except ParseCause MatrixQuery :=
  match expr with
  | .binary .reduce .. => .error (unexpected .matrixQuery expr)
  | _ => do
    let (base, eltwise) ← stageOfExpr registry expr
    return ⟨← MatrixLookup.ofExpr base, eltwise⟩

/-- A vector query: a lookup, or a reduced matrix. -/
def VectorQuery.ofExpr (registry : Registry) (expr : Expr) : Except ParseCause VectorQuery :=
  match expr with
  | .binary .reduce _ input stage => do
    let matrix ← MatrixQuery.ofExpr registry input
    let (reduction, eltwise) ← reductionOfExpr registry stage
    return .reduced matrix reduction eltwise
  | _ => do
    let (base, eltwise) ← stageOfExpr registry expr
    return .lookup (← VectorLookup.ofExpr base) eltwise

/-- A scalar query: a lookup, or a reduced vector. -/
def ScalarQuery.ofExpr (registry : Registry) (expr : Expr) : Except ParseCause ScalarQuery :=
  match expr with
  | .binary .reduce _ input stage => do
    let vector ← VectorQuery.ofExpr registry input
    let (reduction, eltwise) ← reductionOfExpr registry stage
    return .reduced vector reduction eltwise
  | _ => do
    let (base, eltwise) ← stageOfExpr registry expr
    return .lookup (← ScalarLookup.ofExpr base) eltwise

/-! ### Queries of any arity -/

/-- The number of reductions that end a tree, and the tree before them. -/
def Expr.reductions : Expr → Nat × Expr
  | .binary .reduce _ left _ =>
    let (count, base) := left.reductions
    (count + 1, base)
  | expr => (0, expr)

/-- A tree without the element-wise operations that end it. -/
def Expr.withoutEltwise : Expr → Expr
  | .binary .eltwise _ left _ => left
  | expr => expr

/-- The number of axes that a lookup names without an entry. -/
def lookupArity : Expr → Except ParseCause Nat
  | .operand .. => .ok 0
  | .binary .lookup _ axes _ =>
    match axes with
    | .binary .semicolon .. => .error (unexpected .matrixAxes axes)
    | .binary .comma _ left right => .ok ((!left.isEntry).toNat + (!right.isEntry).toNat)
    | _ => .ok (!axes.isEntry).toNat
  | expr => .error (unexpected .propertyLookup expr)

/-- A query of the arity that its tree tells. -/
def Query.ofExpr (registry : Registry) (expr : Expr) : Except ParseCause Query := do
  let (count, base) := expr.reductions
  let arity ← lookupArity base.withoutEltwise
  if arity < count then .error (unexpected .oneReductionPerAxis expr)
  else
    match arity - count with
    | 0 => return .scalar (← ScalarQuery.ofExpr registry expr)
    | 1 => return .vector (← VectorQuery.ofExpr registry expr)
    | _ => return .matrix (← MatrixQuery.ofExpr registry expr)

/-! ### Query texts -/

/-- Parse a text and read its tree. -/
def parseWith {α : Type} (ofExpr : Expr → Except ParseCause α) (text : String) :
    Except ParseError α := do
  let (expr, cleaned) ← Expr.parse text
  (ofExpr expr).mapError (ParseError.mk cleaned)

/-- Parse a query of any arity. -/
def Query.parse (registry : Registry) (text : String) : Except ParseError Query :=
  parseWith (Query.ofExpr registry) text

/-- Parse a scalar query. -/
def ScalarQuery.parse (registry : Registry) (text : String) : Except ParseError ScalarQuery :=
  parseWith (ScalarQuery.ofExpr registry) text

/-- Parse a vector query. -/
def VectorQuery.parse (registry : Registry) (text : String) : Except ParseError VectorQuery :=
  parseWith (VectorQuery.ofExpr registry) text

/-- Parse a matrix query. -/
def MatrixQuery.parse (registry : Registry) (text : String) : Except ParseError MatrixQuery :=
  parseWith (MatrixQuery.ofExpr registry) text

end Axial
