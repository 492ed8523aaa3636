import Axial.Data.Column

/-!
# Matrices

A matrix keeps its values column by column in one `Column`. Sizes and indices are computed in
machine words, so both may come round: a matrix may be accepted with fewer values than cells, and an
index that no cell has may be that of a value.

* `Matrix.WellShaped` : there are as many values as cells.
* `Matrix.of?` : the matrix of some values, if they are as many as cells, counted in words.
* `Matrix.place` : the index of the value of a cell.
* `Matrix.get?`, `Matrix.column?`, `Matrix.select?`, `Matrix.transpose?` : cells, columns,
  submatrices, and the exchange of rows and columns. All but the first refuse to go beyond the last
  value.
-/

namespace Axial

/-- A matrix of values of one type; the value of row `r` and column `c` is kept at index
`c * nrows + r`. -/
structure Matrix where
  nrows : Nat
  ncols : Nat
  values : Column
deriving DecidableEq

namespace Matrix

/-- The matrix has as many values as cells. -/
def WellShaped (m : Matrix) : Prop :=
  m.values.length = m.nrows * m.ncols

instance (m : Matrix) : Decidable m.WellShaped :=
  inferInstanceAs (Decidable (_ = _))

/-- The matrix of the given values, if there are as many as cells, counted in machine words. -/
def of? (nrows ncols : Nat) (values : Column) : Option Matrix :=
  if values.length = nrows * ncols % values.words then some ⟨nrows, ncols, values⟩ else none

variable (m : Matrix)

/-- The index of the value of a cell, computed in machine words. -/
def place (row column : Nat) : Nat :=
  (column * m.nrows + row) % m.values.words

/-- The value of a cell. -/
def get? (row column : Nat) : Option Value :=
  if row < m.nrows ∧ column < m.ncols then m.values.get? (m.place row column) else none

/-- The indices of the cells of some rows in some columns, column by column. -/
def cellIndices (rows columns : List Nat) : List Nat :=
  columns.flatMap fun column => rows.map fun row => m.place row column

/-- The values of one column. -/
def column? (column : Nat) : Option Column :=
  m.values.select? (m.cellIndices (List.range m.nrows) [column])

/-- The matrix of some rows and some columns, in the given orders. -/
def select? (rows columns : List Nat) : Option Matrix :=
  (m.values.select? (m.cellIndices rows columns)).map (⟨rows.length, columns.length, ·⟩)

/-- The indices of all cells, row by row. -/
def rowMajorIndices : List Nat :=
  (List.range m.nrows).flatMap fun row =>
    (List.range m.ncols).map fun column => m.place row column

/-- The matrix with rows and columns exchanged. -/
def transpose? : Option Matrix :=
  (m.values.select? m.rowMajorIndices).map (⟨m.ncols, m.nrows, ·⟩)

end Matrix

end Axial
