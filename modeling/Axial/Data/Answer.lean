import Axial.Data.Matrix

/-!
# Answers

What a query yields: a value, values along an axis, or values along two axes. Entries name the
positions.
-/

namespace Axial

/-- Values along some entries of an axis. -/
structure NamedVector where
  axis : String
  entries : List String
  values : Column
deriving DecidableEq

/-- The value of an entry; of several entries with one name the first counts. -/
def NamedVector.get? (vector : NamedVector) (entry : String) : Option Value :=
  (vector.entries.idxOf? entry).bind vector.values.get?

/-- Values along some entries of two axes. -/
structure NamedMatrix where
  rowsAxis : String
  columnsAxis : String
  rowEntries : List String
  columnEntries : List String
  matrix : Matrix
deriving DecidableEq

/-- The value of a pair of entries. -/
def NamedMatrix.get? (named : NamedMatrix) (row column : String) : Option Value := do
  let r ← named.rowEntries.idxOf? row
  let c ← named.columnEntries.idxOf? column
  named.matrix.get? r c

/-- What a query yields. -/
inductive Answer where
  | scalar (value : Value)
  | vector (vector : NamedVector)
  | matrix (matrix : NamedMatrix)
deriving DecidableEq

end Axial
