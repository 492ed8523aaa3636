import Axial.Proofs.Cells
import Axial.Proofs.Success

/-!
# Submatrices

Rows and columns of a matrix are selected in any order, and as often as they are asked for. The
places of the cells are computed from the indices alone. Where the indices are in range, each cell
of the result is the one that was asked for, and selection, transposition and columns fit together.
A row beyond the last one is not noticed, though: its place is that of a cell of a later column.

Sizes and places are machine words, and come round. A matrix is accepted with fewer values than
cells if the number of its cells does, and a column far beyond the last one may have the places of
others.

* `Matrix.IsSelection` : a matrix shows the cells of some rows in some columns of another one.
* `Matrix.IsSelection.trans`, `Matrix.IsSelection.eq_of_type_eq` : selections of selections, and how
  a selection is determined.
* `Matrix.CellLaws`, `Matrix.cellLaws_iff` : the laws of cells, and the matrices that keep them.
* `Matrix.not_cellLaws_of_overflow` : a matrix that is accepted and does not.
* `Matrix.selectsAsked_iff` : the indices for which no other cell is returned.
* `Matrix.select?_beyond_rows` : a cell that was not asked for.
-/

namespace Axial

namespace Matrix

variable {m picked other : Matrix} {rows columns rows' columns' : List Nat}

/-! ### Selections -/

/-- A matrix shows, for each pair of a row and a column that are asked for, the cell of that row and
that column. -/
structure IsSelection (picked m : Matrix) (rows columns : List Nat) : Prop where
  nrows : picked.nrows = rows.length
  ncols : picked.ncols = columns.length
  cell : ∀ i j row column, rows[i]? = some row → columns[j]? = some column →
    ∃ value, m.get? row column = some value ∧ picked.get? i j = some value

/-- Selecting from a selection composes the indices. -/
theorem IsSelection.trans (h : picked.IsSelection m rows columns)
    (h' : other.IsSelection picked rows' columns') (hrows : ∀ i ∈ rows', i < rows.length)
    (hcolumns : ∀ j ∈ columns', j < columns.length) :
    other.IsSelection m (Column.pick rows rows') (Column.pick columns columns') where
  nrows := by rw [h'.nrows, Column.length_pick hrows]
  ncols := by rw [h'.ncols, Column.length_pick hcolumns]
  cell i j row column hi hj := by
    rw [Column.getElem?_pick hrows] at hi
    rw [Column.getElem?_pick hcolumns] at hj
    -- the indices in between are those of the first selection
    obtain ⟨i', hi', hrow⟩ := Option.bind_eq_some_iff.1 hi
    obtain ⟨j', hj', hcolumn⟩ := Option.bind_eq_some_iff.1 hj
    obtain ⟨value, hvalue, hpicked⟩ := h.cell i' j' row column hrow hcolumn
    obtain ⟨value', hvalue', hother⟩ := h'.cell i j i' j' hi' hj'
    cases hpicked.symm.trans hvalue'
    exact ⟨value, hvalue, hother⟩

/-- Selections of the same cells, with values of one type, are equal. -/
theorem IsSelection.eq_of_type_eq (h : picked.IsSelection m rows columns)
    (h' : other.IsSelection m rows columns) (hpicked : picked.WellShaped)
    (hother : other.WellShaped) (htype : picked.values.type = other.values.type) :
    picked = other := by
  refine ext_get? hpicked hother (h.nrows.trans h'.nrows.symm) (h.ncols.trans h'.ncols.symm)
    htype fun i j => ?_
  by_cases hin : i < rows.length ∧ j < columns.length
  · have hi := List.getElem?_eq_getElem hin.1
    have hj := List.getElem?_eq_getElem hin.2
    obtain ⟨value, hvalue, hcell⟩ := h.cell i j _ _ hi hj
    obtain ⟨value', hvalue', hcell'⟩ := h'.cell i j _ _ hi hj
    rw [hcell, hcell', ← hvalue, ← hvalue']
  · rw [get?_eq_none, get?_eq_none]
    · rwa [h'.nrows, h'.ncols]
    · rwa [h.nrows, h.ncols]

/-! ### What is selected -/

/-- A cell in range has a value. -/
theorem exists_get? (hm : m.WellShaped) {row column : Nat} (hrow : row < m.nrows)
    (hcolumn : column < m.ncols) : ∃ value, m.get? row column = some value := by
  rw [get?_eq hrow hcolumn]
  exact Column.exists_get? (place_lt hm hrow hcolumn)

/-- A selection fails if and only if the place of some cell is beyond the last value. -/
theorem select?_eq_none_iff :
    m.select? rows columns = none ↔
      ∃ column ∈ columns, ∃ row ∈ rows, m.values.length ≤ m.place row column := by
  rw [select?, Option.map_eq_none_iff, Column.select?, ite_eq_right_iff]
  simp [cellIndices]

/-- A selection that does not fail shows what was asked for, if this is in range. -/
theorem isSelection_of_select? (h : m.select? rows columns = some picked)
    (hrange : ∀ row ∈ rows, ∀ column ∈ columns, row < m.nrows ∧ column < m.ncols) :
    picked.IsSelection m rows columns := by
  obtain ⟨-, hnrows, hncols⟩ := shape_of_select? h
  refine ⟨hnrows, hncols, fun i j row column hi hj => ?_⟩
  have hmem := List.mem_of_getElem? hi
  have hmem' := List.mem_of_getElem? hj
  obtain ⟨hrow, hcolumn⟩ := hrange row hmem column hmem'
  have hplace : m.place row column < m.values.length := by
    by_contra hbeyond
    have hnone := select?_eq_none_iff.2 ⟨column, hmem', row, hmem, Nat.le_of_not_lt hbeyond⟩
    cases h.symm.trans hnone
  obtain ⟨value, hvalue⟩ := Column.exists_get? hplace
  rw [← get?_eq hrow hcolumn] at hvalue
  exact ⟨value, hvalue, (get?_select h hi hj hrow hcolumn).trans hvalue⟩

/-- Rows and columns in range are selected: each cell is the one that was asked for. -/
theorem exists_isSelection (hm : m.WellShaped) (hrows : ∀ row ∈ rows, row < m.nrows)
    (hcolumns : ∀ column ∈ columns, column < m.ncols) :
    ∃ picked, m.select? rows columns = some picked ∧ picked.WellShaped ∧
      picked.IsSelection m rows columns ∧ picked.values.type = m.values.type := by
  obtain ⟨picked, hpicked, hshape, -⟩ := exists_select? hm hrows hcolumns
  exact ⟨picked, hpicked, hshape, isSelection_of_select? hpicked fun row hrow column hcolumn =>
    ⟨hrows row hrow, hcolumns column hcolumn⟩, type_of_select? hpicked⟩

/-- Selecting again composes the lists of indices. -/
theorem select?_select (hm : m.WellShaped) (hrows : ∀ row ∈ rows, row < m.nrows)
    (hcolumns : ∀ column ∈ columns, column < m.ncols) (h : m.select? rows columns = some picked)
    (hrows' : ∀ i ∈ rows', i < rows.length) (hcolumns' : ∀ j ∈ columns', j < columns.length) :
    picked.select? rows' columns' =
      m.select? (Column.pick rows rows') (Column.pick columns columns') := by
  obtain ⟨_, hpicked, hshape, hselection, htype⟩ := exists_isSelection hm hrows hcolumns
  cases h.symm.trans hpicked
  obtain ⟨twice, htwice, hshape', hselection', htype'⟩ :=
    exists_isSelection hshape (hselection.nrows ▸ hrows') (hselection.ncols ▸ hcolumns')
  obtain ⟨once, honce, hshape'', hselection'', htype''⟩ :=
    exists_isSelection hm (fun row hrow => hrows row (Column.mem_of_mem_pick hrow))
      (fun column hcolumn => hcolumns column (Column.mem_of_mem_pick hcolumn))
  have htypes : twice.values.type = once.values.type := by rw [htype', htype, htype'']
  rw [htwice, honce, (hselection.trans hselection' hrows' hcolumns').eq_of_type_eq hselection''
    hshape' hshape'' htypes]

/-- A column is what is selected with all rows. -/
theorem column?_eq_select? (column : Nat) :
    m.column? column = (m.select? (List.range m.nrows) [column]).map Matrix.values := by
  rw [select?, Option.map_map, column?]
  exact (Option.map_id' ..).symm

/-! ### The laws of cells -/

/-- The laws of cells. Rows and columns can be exchanged, which exchanges them for every cell, in
range or not, and undoes itself. A column in range has the cells of that column, and is what is
selected with all rows. Rows and columns in range can be selected in any order and as often as asked
for: each cell of the selection is the one that was asked for, the exchange of rows and columns can
come before or after, and selecting again composes the indices. All results have as many values as
cells. -/
structure CellLaws (m : Matrix) : Prop where
  transpose : ∃ transposed, m.transpose? = some transposed ∧ transposed.WellShaped ∧
    (∀ row column, transposed.get? column row = m.get? row column) ∧
    transposed.transpose? = some m
  column : ∀ column < m.ncols, ∃ cells, m.column? column = some cells ∧ cells.length = m.nrows ∧
    (m.select? (List.range m.nrows) [column]).map Matrix.values = some cells ∧
    ∀ row < m.nrows, cells.get? row = m.get? row column
  select : ∀ rows columns, (∀ row ∈ rows, row < m.nrows) → (∀ column ∈ columns, column < m.ncols) →
    ∃ picked, m.select? rows columns = some picked ∧ picked.WellShaped ∧
      picked.IsSelection m rows columns ∧
      (∃ turned, picked.transpose? = some turned ∧ turned.WellShaped ∧
        m.transpose?.bind (·.select? columns rows) = some turned) ∧
      ∀ rows' columns', (∀ i ∈ rows', i < rows.length) → (∀ j ∈ columns', j < columns.length) →
        picked.select? rows' columns' =
          m.select? (Column.pick rows rows') (Column.pick columns columns')

/-- A matrix with as many values as cells keeps the laws. -/
theorem WellShaped.cellLaws (hm : m.WellShaped) : m.CellLaws := by
  obtain ⟨transposed, htranspose, hshape, -⟩ := exists_transpose? hm
  refine ⟨⟨transposed, htranspose, hshape, fun row column => get?_transpose hm htranspose,
    transpose?_of_transpose? hm htranspose⟩, fun column hcolumn => ?_,
    fun rows columns hrows hcolumns => ?_⟩
  · obtain ⟨cells, hcells, hlength⟩ := exists_column? hm hcolumn
    exact ⟨cells, hcells, hlength, (column?_eq_select? column).symm.trans hcells,
      fun row hrow => get?_column hm hrow hcolumn hcells⟩
  · obtain ⟨picked, hpicked, hshape', hselection, -⟩ := exists_isSelection hm hrows hcolumns
    obtain ⟨turned, hturned, hshape'', -⟩ := exists_transpose? hshape'
    refine ⟨picked, hpicked, hshape', hselection, ⟨turned, hturned, hshape'', ?_⟩,
      fun rows' columns' hrows' hcolumns' =>
        select?_select hm hrows hcolumns hpicked hrows' hcolumns'⟩
    rw [htranspose, Option.bind_some, select?_transpose hm hrows hcolumns htranspose hpicked,
      hturned]

/-- An accepted matrix has as many values as cells if and only if the number of its cells is a
machine word. -/
theorem wellShaped_iff_lt_words {nrows ncols : Nat} {values : Column}
    (hm : of? nrows ncols values = some m) :
    m.WellShaped ↔ nrows * ncols < values.words := by
  obtain ⟨hlength, rfl⟩ := of?_eq_some_iff.1 hm
  have hpos : 0 < values.words := Nat.lt_of_lt_of_le (Nat.succ_pos _) (Nat.le_max_right ..)
  show values.length = nrows * ncols ↔ _
  rw [hlength]
  constructor
  · intro hexact
    exact hexact ▸ Nat.mod_lt _ hpos
  · exact Nat.mod_eq_of_lt

/-- With fewer values than cells, a cell in range cannot be selected. -/
theorem CellLaws.cells_le_length (h : m.CellLaws) : m.nrows * m.ncols ≤ m.values.length := by
  by_contra hfewer
  have hlt : m.values.length < m.nrows * m.ncols := Nat.lt_of_not_le hfewer
  have hnrows : 0 < m.nrows := Nat.pos_of_ne_zero fun h0 => by simp [h0] at hlt
  -- the first index beyond the last value is that of this cell
  let row := m.values.length % m.nrows
  let column := m.values.length / m.nrows
  have hrow : row < m.nrows := Nat.mod_lt _ hnrows
  have hcolumn : column < m.ncols := Nat.div_lt_of_lt_mul hlt
  have hplace : m.place row column = m.values.length := by
    rw [place, Nat.div_add_mod', Column.mod_words (Nat.le_refl _)]
  obtain ⟨picked, hpicked, -⟩ := h.select [row] [column] (by simpa using hrow)
    (by simpa using hcolumn)
  have hnone : m.select? [row] [column] = none :=
    select?_eq_none_iff.2
      ⟨column, List.mem_cons_self, row, List.mem_cons_self, Nat.le_of_eq hplace.symm⟩
  cases hpicked.symm.trans hnone

/-- **The cells of matrices.** A matrix that is accepted keeps the laws of cells if and only if the
number of its cells is a machine word. If this number comes round, the matrix is accepted with fewer
values than cells, and there are cells in range that cannot be selected. -/
theorem cellLaws_iff {nrows ncols : Nat} {values : Column} (hm : of? nrows ncols values = some m) :
    m.CellLaws ↔ nrows * ncols < values.words := by
  rw [← wellShaped_iff_lt_words hm]
  refine ⟨fun h => ?_, WellShaped.cellLaws⟩
  obtain ⟨hlength, rfl⟩ := of?_eq_some_iff.1 hm
  exact Nat.le_antisymm (hlength ▸ Nat.mod_le ..) h.cells_le_length

/-- A row twice and the columns backwards, and then a part of that. -/
theorem cellLaws_iff_repeated : ∃ m picked turned,
    of? 2 3 (.string ["a", "b", "c", "d", "e", "f"]) = some m ∧
    m.select? [1, 1, 0] [2, 0] = some picked ∧
    (∃ value, m.get? 0 2 = some value ∧ picked.get? 2 0 = some value) ∧
    picked.transpose? = some turned ∧
    m.transpose?.bind (·.select? [2, 0] [1, 1, 0]) = some turned ∧
    picked.select? [2, 0] [1] = m.select? [0, 1] [0] := by
  obtain ⟨m, hm⟩ : ∃ m, of? 2 3 (.string ["a", "b", "c", "d", "e", "f"]) = some m := ⟨_, rfl⟩
  have hlaws := (cellLaws_iff hm).2 (by decide)
  cases hm
  obtain ⟨picked, hpicked, -, hselection, ⟨turned, hturned, -, hbefore⟩, hagain⟩ :=
    hlaws.select [1, 1, 0] [2, 0] (by decide) (by decide)
  exact ⟨_, picked, turned, rfl, hpicked, hselection.cell 2 0 0 2 rfl rfl, hturned, hbefore,
    hagain [2, 0] [1] (by decide) (by decide)⟩

/-- The number of cells comes round to zero here, so a matrix without values is accepted. The cell
in its first row and its first column is in range and cannot be selected. -/
theorem not_cellLaws_of_overflow : ∃ m, of? 4294967296 4294967296 (.int []) = some m ∧
    0 < m.nrows ∧ 0 < m.ncols ∧ m.get? 0 0 = none ∧ m.select? [0] [0] = none ∧
    m.values.length ≠ m.nrows * m.ncols ∧ ¬ m.CellLaws := by
  have hm : of? 4294967296 4294967296 (.int []) =
      some ⟨4294967296, 4294967296, .int []⟩ := by decide
  refine ⟨_, hm, by decide, by decide, by decide, by decide, by decide, fun hlaws => ?_⟩
  exact absurd hlaws.cells_le_length (by decide)

/-! ### Indices out of range -/

/-- A selection shows what was asked for, unless it fails. -/
def SelectsAsked (m : Matrix) (rows columns : List Nat) : Prop :=
  m.select? rows columns = none ∨
    ∃ picked, m.select? rows columns = some picked ∧ picked.IsSelection m rows columns

/-- Only cells in range can be shown. -/
theorem IsSelection.inRange (h : picked.IsSelection m rows columns) :
    ∀ row ∈ rows, ∀ column ∈ columns, row < m.nrows ∧ column < m.ncols := by
  intro row hrow column hcolumn
  obtain ⟨i, hi⟩ := List.getElem?_of_mem hrow
  obtain ⟨j, hj⟩ := List.getElem?_of_mem hcolumn
  obtain ⟨value, hvalue, -⟩ := h.cell i j row column hi hj
  by_contra hbeyond
  rw [get?_eq_none hbeyond] at hvalue
  cases hvalue

/-- With the rows in range, and indices that are machine words, what is selected is what was asked
for: a column beyond the last one has the places of its cells beyond the last value. -/
theorem selectsAsked_of_rows (hm : m.values.length ≤ m.nrows * m.ncols)
    (hrows : ∀ row ∈ rows, row < m.nrows)
    (hwords : ∀ row ∈ rows, ∀ column ∈ columns, column * m.nrows + row < m.values.words) :
    m.SelectsAsked rows columns := by
  cases hpicked : m.select? rows columns with
  | none => exact .inl hpicked
  | some picked =>
    refine .inr ⟨picked, hpicked, isSelection_of_select? hpicked fun row hrow column hcolumn =>
      ⟨hrows row hrow, ?_⟩⟩
    by_contra hbeyond
    have hplace : m.values.length ≤ m.place row column := by
      rw [place, Nat.mod_eq_of_lt (hwords row hrow column hcolumn)]
      calc m.values.length ≤ m.nrows * m.ncols := hm
        _ ≤ m.nrows * column := Nat.mul_le_mul_left _ (Nat.le_of_not_lt hbeyond)
        _ = column * m.nrows := Nat.mul_comm ..
        _ ≤ column * m.nrows + row := Nat.le_add_right ..
    have hnone := select?_eq_none_iff.2 ⟨column, hcolumn, row, hrow, hplace⟩
    cases hpicked.symm.trans hnone

/-- **When a selection returns no other cell.** A selection fails if and only if the place of one of
its cells is beyond the last value. It fails or shows what was asked for if and only if all its
cells are in range, or the place of one is beyond the last value. What is left are cells out of
range whose places are those of other cells: they have a row beyond the last one, or an index that
comes round in machine words. With the rows in range, and indices that are words, there are
none. -/
theorem selectsAsked_iff {nrows ncols : Nat} {values : Column}
    (hm : of? nrows ncols values = some m) (rows columns : List Nat) :
    (m.select? rows columns = none ↔
      ∃ column ∈ columns, ∃ row ∈ rows, m.values.length ≤ m.place row column) ∧
    (m.SelectsAsked rows columns ↔
      (∀ row ∈ rows, ∀ column ∈ columns, row < m.nrows ∧ column < m.ncols) ∨
        ∃ column ∈ columns, ∃ row ∈ rows, m.values.length ≤ m.place row column) ∧
    ((∀ row ∈ rows, row < m.nrows) →
      (∀ row ∈ rows, ∀ column ∈ columns, column * m.nrows + row < m.values.words) →
        m.SelectsAsked rows columns) := by
  refine ⟨select?_eq_none_iff, ⟨?_, ?_⟩, ?_⟩
  · rintro (hfails | ⟨picked, -, hselection⟩)
    · exact .inr (select?_eq_none_iff.1 hfails)
    · exact .inl hselection.inRange
  · rintro (hrange | hfails)
    · cases hpicked : m.select? rows columns with
      | none => exact .inl hpicked
      | some picked => exact .inr ⟨picked, hpicked, isSelection_of_select? hpicked hrange⟩
    · exact .inl (select?_eq_none_iff.2 hfails)
  · obtain ⟨hlength, rfl⟩ := of?_eq_some_iff.1 hm
    exact selectsAsked_of_rows (hlength ▸ Nat.mod_le ..)

/-- Rows in range, with columns in range and with one that is not. -/
theorem selectsAsked_iff_columns : ∃ m, of? 2 3 (.int [1, 2, 3, 4, 5, 6]) = some m ∧
    m.SelectsAsked [1, 1] [2] ∧ m.SelectsAsked [1, 0] [0, 3] ∧ m.select? [1, 0] [0, 3] = none := by
  obtain ⟨m, hm⟩ : ∃ m, of? 2 3 (.int [1, 2, 3, 4, 5, 6]) = some m := ⟨_, rfl⟩
  obtain ⟨-, hin, -⟩ := selectsAsked_iff hm [1, 1] [2]
  obtain ⟨hfails, -, hrows⟩ := selectsAsked_iff hm [1, 0] [0, 3]
  cases hm
  exact ⟨_, rfl, hin.2 (.inl (by decide)), hrows (by decide) (by decide),
    hfails.2 ⟨3, by decide, 0, by decide, by decide⟩⟩

/-- Row 2 of a matrix of two rows is not in range, but its place in the first column is that of the
first cell of the second column, and this cell is returned. -/
theorem select?_beyond_rows : ∃ m picked, of? 2 3 (.int [1, 2, 3, 4, 5, 6]) = some m ∧
    m.select? [2] [0] = some picked ∧ m.get? 2 0 = none ∧ picked.get? 0 0 = m.get? 0 1 ∧
    ¬ picked.IsSelection m [2] [0] := by
  refine ⟨⟨2, 3, .int [1, 2, 3, 4, 5, 6]⟩, ⟨1, 1, .int [3]⟩, rfl, rfl, rfl, rfl,
    fun hselection => ?_⟩
  obtain ⟨value, hvalue, -⟩ := hselection.cell 0 0 2 0 rfl rfl
  cases hvalue

/-- An index that comes round is that of the first cell. -/
example : select? ⟨2, 3, .int [1, 2, 3, 4, 5, 6]⟩ [0] [9223372036854775808] =
    some ⟨1, 1, .int [1]⟩ := by
  decide

end Matrix

end Axial
