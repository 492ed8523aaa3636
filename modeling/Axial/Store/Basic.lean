import Axial.Data.Matrix
import Axial.Store.Table

/-!
# Stores

A store holds named axes, scalars, vectors along an axis, and matrices along two axes. A matrix
belongs to its two axes in either order: it is kept in the order it was given last, and presented
transposed for the other order.

* `Store.entries?`, `Store.scalar?`, `Store.vector?`, `Store.matrix?` : what a store holds.
* `Update.addAxis`, `Update.setScalar`, `Update.setVector`, `Update.setMatrix` : the ways to fill a
  store. Each checks the new data against the axes.
* `Store.update`, `Store.after` : what comes of such steps, and the store that they leave.
-/

namespace Axial

/-- A data set with named axes. -/
structure Store where
  name : String
  /-- The entries of each axis. -/
  axes : Table String (List String)
  scalars : Table String Value
  /-- Vectors by their axis and name. -/
  vectors : Table (String × String) Column
  /-- Matrices by their rows axis, columns axis and name. -/
  matrices : Table (String × String × String) Matrix

/-! ### Errors -/

/-- Why data does not fit into a store. -/
inductive StoreCause where
  | existingAxis (axis : String)
  | duplicateEntry (entry axis : String)
  | missingAxis (axis : String)
  | vectorLength (name : String) (found expected : Nat) (axis : String)
  | matrixShape (name : String) (found expected : Nat × Nat) (rows columns : String)
  | raggedRows (name : String)
deriving DecidableEq, Repr

/-- A store and why data does not fit into it. -/
structure StoreError where
  store : String
  cause : StoreCause
deriving DecidableEq, Repr

/-- The wording of a cause. -/
def StoreCause.text : StoreCause → String
  | existingAxis axis => "existing axis: " ++ axis
  | duplicateEntry entry axis => "non-unique entry: " ++ entry ++ "\nof the axis: " ++ axis
  | missingAxis axis => "missing axis: " ++ axis
  | vectorLength name found expected axis =>
    "vector: " ++ name ++ s!" has length: {found} instead of the length: {expected} of the axis: "
      ++ axis
  | matrixShape name (r, c) (nrows, ncols) rows columns =>
    "matrix: " ++ name ++ s!" has shape: {r} x {c} instead of: {nrows} x {ncols} for the axes: "
      ++ rows ++ " , " ++ columns
  | raggedRows name => "ragged rows in the matrix: " ++ name

/-- The wording of a store error. -/
def StoreError.message (error : StoreError) : String :=
  error.cause.text ++ "\nin the data: " ++ error.store

namespace Store

/-- The store that holds nothing. -/
def empty (name : String) : Store :=
  ⟨name, .empty, .empty, .empty, .empty⟩

variable (store : Store)

/-! ### What a store holds -/

/-- The entries of an axis. -/
def entries? (axis : String) : Option (List String) :=
  store.axes.get? axis

/-- Whether there is an axis of the given name. -/
def hasAxis (axis : String) : Bool :=
  store.axes.contains axis

/-- The number of entries of an axis. -/
def axisLength? (axis : String) : Option Nat :=
  (store.entries? axis).map List.length

/-- The scalar of the given name. -/
def scalar? (name : String) : Option Value :=
  store.scalars.get? name

/-- Whether there is a scalar of the given name. -/
def hasScalar (name : String) : Bool :=
  store.scalars.contains name

/-- The vector of the given name along an axis. -/
def vector? (axis name : String) : Option Column :=
  store.vectors.get? (axis, name)

/-- Whether there is a vector of the given name along an axis. -/
def hasVector (axis name : String) : Bool :=
  store.vectors.contains (axis, name)

/-- The matrix of the given name, with the given axes along its rows and columns: as it is kept, or
else transposed. A matrix that has fewer values than cells may be there and yet refuse to be
transposed. -/
def matrix? (rows columns name : String) : Option (Option Matrix) :=
  match store.matrices.get? (rows, columns, name) with
  | some m => some (some m)
  | none => (store.matrices.get? (columns, rows, name)).map Matrix.transpose?

/-- Whether there is a matrix of the given name along two axes. -/
def hasMatrix (rows columns name : String) : Bool :=
  store.matrices.contains (rows, columns, name) || store.matrices.contains (columns, rows, name)

/-! ### Filling a store -/

/-- The first name of a list that stands in it, or among the given ones, before. -/
def firstRepeated? (before : List String) : List String → Option String
  | [] => none
  | name :: names => if name ∈ before then some name else firstRepeated? (name :: before) names

end Store

/-- Steps on a store. They succeed or fail, and leave a store behind either way. -/
abbrev Update (α : Type) := ExceptT StoreError (StateM Store) α

namespace Update

/-- Stop with an error about the store. -/
def fail {α : Type} (cause : StoreCause) : Update α := do
  throw ⟨(← get).name, cause⟩

/-- The length of an axis that has to exist. -/
def requireLength (axis : String) : Update Nat := do
  match (← get).axisLength? axis with
  | some length => return length
  | none => fail (.missingAxis axis)

/-- Add an axis with distinct entries. -/
def addAxis (axis : String) (entries : List String) : Update Unit := do
  if (← get).hasAxis axis then
    fail (.existingAxis axis)
  if let some entry := Store.firstRepeated? [] entries then
    fail (.duplicateEntry entry axis)
  modify fun store => { store with axes := store.axes.insert axis entries }

/-- Set a scalar. -/
def setScalar (name : String) (value : Value) : Update Unit :=
  modify fun store => { store with scalars := store.scalars.insert name value }

/-- Set a vector along an axis. -/
def setVector (axis name : String) (values : Column) : Update Unit := do
  let length ← requireLength axis
  if values.length ≠ length then
    fail (.vectorLength name values.length length axis)
  modify fun store => { store with vectors := store.vectors.insert (axis, name) values }

/-- Set a matrix along two axes, in place of the one it had in either order of the axes. -/
def setMatrix (rows columns name : String) (m : Matrix) : Update Unit := do
  let nrows ← requireLength rows
  let ncols ← requireLength columns
  if (m.nrows, m.ncols) ≠ (nrows, ncols) then
    fail (.matrixShape name (m.nrows, m.ncols) (nrows, ncols) rows columns)
  modify fun store => { store with matrices := store.matrices.erase (columns, rows, name) }
  modify fun store => { store with matrices := store.matrices.insert (rows, columns, name) m }

end Update

namespace Store

variable (store : Store)

/-- Take some steps: what comes of them, and the store that they leave. -/
def update {α : Type} (steps : Update α) : Except StoreError α × Store :=
  steps.run.run store

/-- The store that some steps leave if they succeed. -/
def after (steps : Update Unit) : Except StoreError Store :=
  match store.update steps with
  | (.ok _, next) => .ok next
  | (.error e, _) => .error e

end Store

end Axial
