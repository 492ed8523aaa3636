import Axial.Evaluation.Mask
import Axial.Data.Answer
import Axial.Operation.Registry

/-!
# Evaluation

A query is answered from a store, with the operations of a registry. There is no answer where the
filters of an axis keep no entry.

* `ScalarLookup.eval`, `VectorLookup.eval`, `MatrixLookup.eval` : what a store holds.
* `MatrixQuery.eval`, `VectorQuery.eval`, `ScalarQuery.eval` : with the operations applied.
* `Query.eval` : queries of any arity.
-/

namespace Axial

/-! ### Lookups -/

/-- A matrix along two axes that have to exist. It cannot be used if it refuses to be transposed for
the order of the axes. -/
def Store.requireMatrix (store : Store) (rows columns name : String) : Except EvalError Matrix := do
  let _ ← store.requireEntries rows
  let _ ← store.requireEntries columns
  let shown? ← store.require (.missingMatrix name rows columns) (store.matrix? rows columns name)
  store.require .outOfRange shown?

/-- The values at some places of an axis, with the names of the entries. -/
def Store.nameVector (store : Store) (axis : String) (indices : List Nat) (values : Column) :
    Except EvalError NamedVector := do
  let entries ← store.requireEntries axis
  let entries ← store.require .outOfRange (Column.pick? entries indices)
  let values ← store.require .outOfRange (values.select? indices)
  return ⟨axis, entries, values⟩

/-- The value that is looked up. -/
def ScalarLookup.eval (store : Store) : ScalarLookup → Except EvalError Value
  | .scalar name => store.require (.missingScalar name) (store.scalar? name)
  | .vectorEntry entry property => property.valueAt store entry
  | .matrixEntry rows columns name => do
    let row ← store.entryIndex rows
    let column ← store.entryIndex columns
    let m ← store.requireMatrix rows.axis columns.axis name
    store.require (.missingEntryValue (.matrixEntry rows columns name)) (m.get? row column)

/-- The vector that is looked up. The property of a filtered axis is looked up for all its entries
before those that are kept are picked. -/
def VectorLookup.eval (store : Store) : VectorLookup → Except EvalError (Option NamedVector)
  | .vector axis property => do
    match ← axis.indices store with
    | none => return none
    | some indices =>
      let values ← property.values store axis.axis
      return some (← store.nameVector axis.axis indices values)
  | .matrixSlice axis entry name => do
    match ← axis.indices store with
    | none => return none
    | some indices =>
      let column ← store.entryIndex entry
      let m ← store.requireMatrix axis.axis entry.axis name
      let values ← store.require .outOfRange (m.column? column)
      return some (← store.nameVector axis.axis indices values)

/-- The matrix that is looked up. -/
def MatrixLookup.eval (store : Store) (lookup : MatrixLookup) :
    Except EvalError (Option NamedMatrix) := do
  match ← lookup.rows.indices store with
  | none => return none
  | some rows =>
    match ← lookup.columns.indices store with
    | none => return none
    | some columns =>
      let m ← store.requireMatrix lookup.rows.axis lookup.columns.axis lookup.name
      let rowEntries ← store.requireEntries lookup.rows.axis
      let columnEntries ← store.requireEntries lookup.columns.axis
      let rowEntries ← store.require .outOfRange (Column.pick? rowEntries rows)
      let columnEntries ← store.require .outOfRange (Column.pick? columnEntries columns)
      let picked ← store.require .outOfRange (m.select? rows columns)
      return some ⟨lookup.rows.axis, lookup.columns.axis, rowEntries, columnEntries, picked⟩

/-! ### Operations -/

/-- The numbers that an operation of the given name is applied to. -/
def Store.numbers (store : Store) (operation : String) (values : Column) :
    Except EvalError (List Binary64) :=
  store.require (.notNumeric values.type operation) values.toFloats?

/-- The function that applies some element-wise operations one after another. -/
def Registry.pipeline (registry : Registry) (store : Store) (eltwise : List Invocation) :
    Except EvalError (Binary64 → Binary64) :=
  eltwise.foldlM (fun before invocation => do
    let f ← store.require (.unknownOperation .eltwise invocation.name)
      (registry.eltwise? invocation.name invocation.parameters)
    return f ∘ before) id

/-- Apply element-wise operations to values, which become floating-point numbers. Without an
operation the values stay as they are. -/
def Registry.applyToColumn (registry : Registry) (store : Store) (eltwise : List Invocation)
    (values : Column) : Except EvalError Column := do
  match eltwise with
  | [] => return values
  | first :: _ =>
    let numbers ← store.numbers first.name values
    let f ← registry.pipeline store eltwise
    return .float (numbers.map f)

/-- Apply element-wise operations to a single value, as to a column that holds nothing else. -/
def Registry.applyToValue (registry : Registry) (store : Store) (eltwise : List Invocation)
    (value : Value) : Except EvalError Value := do
  match eltwise with
  | [] => return value
  | _ :: _ =>
    let values ← registry.applyToColumn store eltwise (.ofValue value)
    store.require .outOfRange (values.get? 0)

/-- Apply element-wise operations to the values of a vector. -/
def Registry.applyToVector (registry : Registry) (store : Store) (eltwise : List Invocation)
    (vector : NamedVector) : Except EvalError NamedVector := do
  let values ← registry.applyToColumn store eltwise vector.values
  return { vector with values := values }

/-- Apply element-wise operations to the values of a matrix. -/
def Registry.applyToMatrix (registry : Registry) (store : Store) (eltwise : List Invocation)
    (named : NamedMatrix) : Except EvalError NamedMatrix := do
  let values ← registry.applyToColumn store eltwise named.matrix.values
  return { named with matrix := { named.matrix with values := values } }

/-- Reduce some numbers to one. -/
def Registry.reduce (registry : Registry) (store : Store) (reduction : Invocation)
    (numbers : List Binary64) : Except EvalError Binary64 := do
  let f ← store.require (.unknownOperation .reduction reduction.name)
    (registry.reduction? reduction.name reduction.parameters)
  return f numbers

/-- Reduce the values of a vector to one. -/
def Registry.reduceVector (registry : Registry) (store : Store) (reduction : Invocation)
    (vector : NamedVector) : Except EvalError Value := do
  let numbers ← store.numbers reduction.name vector.values
  return .float (← registry.reduce store reduction numbers)

/-- Reduce each column of a matrix to one value of a vector along its columns. -/
def Registry.reduceColumns (registry : Registry) (store : Store) (reduction : Invocation)
    (named : NamedMatrix) : Except EvalError NamedVector := do
  let numbers ← store.numbers reduction.name named.matrix.values
  let nrows := named.matrix.nrows
  let reduced ← (List.range named.matrix.ncols).mapM fun column => do
    let slice ← store.require .outOfRange
      (Column.slice? numbers (column * nrows) ((column + 1) * nrows))
    registry.reduce store reduction slice
  return ⟨named.columnsAxis, named.columnEntries, .float reduced⟩

/-! ### Queries -/

/-- The answer to a matrix query. -/
def MatrixQuery.eval (store : Store) (registry : Registry) (query : MatrixQuery) :
    Except EvalError (Option NamedMatrix) := do
  (← query.lookup.eval store).mapM (registry.applyToMatrix store query.eltwise)

/-- The answer to a vector query. -/
def VectorQuery.eval (store : Store) (registry : Registry) :
    VectorQuery → Except EvalError (Option NamedVector)
  | .lookup source eltwise => do
    (← source.eval store).mapM (registry.applyToVector store eltwise)
  | .reduced matrix reduction eltwise => do
    (← matrix.eval store registry).mapM fun named => do
      let vector ← registry.reduceColumns store reduction named
      registry.applyToVector store eltwise vector

/-- The answer to a scalar query. -/
def ScalarQuery.eval (store : Store) (registry : Registry) :
    ScalarQuery → Except EvalError (Option Value)
  | .lookup source eltwise => do
    return some (← registry.applyToValue store eltwise (← source.eval store))
  | .reduced vector reduction eltwise => do
    (← vector.eval store registry).mapM fun vector => do
      let value ← registry.reduceVector store reduction vector
      registry.applyToValue store eltwise value

/-- The answer to a query, if there is one. -/
def Query.eval (store : Store) (registry : Registry) : Query → Except EvalError (Option Answer)
  | .scalar query => do return (← query.eval store registry).map .scalar
  | .vector query => do return (← query.eval store registry).map .vector
  | .matrix query => do return (← query.eval store registry).map .matrix

end Axial
