import Axial.Store.Basic

/-!
# Store descriptions

A whole data set as it is written down: axes, scalars, vectors, and matrices row by row.

* `Rows` : the values of a matrix, row by row; `Rows.toMatrix?` brings them into a matrix.
* `Store.ofDescription` : the store of a description, filled in the order axes, scalars, vectors,
  matrices; the first datum that does not fit is an error.
-/

namespace Axial

/-- The values of a matrix row by row, all of one type. -/
inductive Rows where
  | bool (rows : List (List Bool))
  | int (rows : List (List Int64))
  | float (rows : List (List Binary64))
  | string (rows : List (List String))
deriving DecidableEq

namespace Rows

variable {α : Type}

/-- The length of the first row; no rows have no columns. -/
def width (rows : List (List α)) : Nat :=
  (rows.head?.map List.length).getD 0

/-- The values of rows column by column. -/
def columnMajor (rows : List (List α)) : List α :=
  (List.range (width rows)).flatMap fun column => rows.filterMap (·[column]?)

/-- The matrix of rows of equal length. -/
def matrixOf? (wrap : List α → Column) (rows : List (List α)) : Option Matrix :=
  if rows.all (·.length = width rows) then
    Matrix.of? rows.length (width rows) (wrap (columnMajor rows))
  else none

/-- The matrix of rows, if they are of equal length. -/
def toMatrix? : Rows → Option Matrix
  | bool rows => matrixOf? .bool rows
  | int rows => matrixOf? .int rows
  | float rows => matrixOf? .float rows
  | string rows => matrixOf? .string rows

end Rows

/-- A matrix of a description. -/
structure MatrixItem where
  rows : String
  columns : String
  name : String
  values : Rows
deriving DecidableEq

/-- A data set as it is written down. -/
structure Description where
  name : String
  axes : List (String × List String)
  scalars : List (String × Value)
  /-- The vectors of each axis. -/
  vectors : List (String × List (String × Column))
  matrices : List MatrixItem
deriving DecidableEq

/-- Add the matrix of an item. -/
def Update.addItem (item : MatrixItem) : Update Unit :=
  match item.values.toMatrix? with
  | some m => setMatrix item.rows item.columns item.name m
  | none => fail (.raggedRows item.name)

/-- The store of a description. -/
def Store.ofDescription (d : Description) : Except StoreError Store := do
  let store ← d.axes.foldlM (fun store (axis, entries) => store.after (.addAxis axis entries))
    (empty d.name)
  let store := d.scalars.foldl (fun store (name, value) => (store.update (.setScalar name value)).2)
    store
  let vectors := d.vectors.flatMap fun (axis, named) => named.map fun (name, values) =>
    (axis, name, values)
  let store ← vectors.foldlM
    (fun store (axis, name, values) => store.after (.setVector axis name values)) store
  d.matrices.foldlM (fun store item => store.after (.addItem item)) store

end Axial
