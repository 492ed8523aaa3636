import Axial.Proofs.Pointwise

/-!
# The cells of matrices, slices and entries

A value of a matrix can be asked for along with the whole matrix, along with its column, or alone.
The three compute its place in three ways: a submatrix is selected from the values of the stored
matrix, a slice is picked from one of its columns, and a single cell is read off.

* `VectorLookup.exists_get?_slice`, `MatrixLookup.exists_get?` : the values of slices and matrices
  are those of the cell lookups.
* `MatrixLookup.exists_slice_column` : where there is a matrix, there is a slice at each of its
  columns.
* `MatrixQuery.eval_eq_cells` : matrix, slice and entry queries read the same cells.
-/

namespace Axial

/-! ### Operations -/

namespace Registry

variable {registry : Registry} {store : Store} {eltwise : List Invocation}

/-- Whether operations can be applied depends on the type of the values only. -/
theorem exists_applyToColumn_of_type {values other result : Column}
    (h : registry.applyToColumn store eltwise values = .ok result)
    (htype : other.type = values.type) :
    ∃ result', registry.applyToColumn store eltwise other = .ok result' := by
  cases eltwise with
  | nil => exact ⟨other, rfl⟩
  | cons first eltwise =>
    obtain ⟨numbers, f, hnumbers, hf, rfl⟩ := applyToColumn_cons_eq_ok.1 h
    obtain ⟨numbers', hnumbers'⟩ : ∃ numbers', other.toFloats? = some numbers' := by
      cases values <;> cases other <;> cases hnumbers <;> cases htype <;> exact ⟨_, rfl⟩
    exact ⟨_, applyToColumn_cons_eq_ok.2 ⟨numbers', f, hnumbers', hf, rfl⟩⟩

theorem exists_get?_of_applyToMatrix {named result : NamedMatrix} {row column : String}
    {value : Value} (h : registry.applyToMatrix store eltwise named = .ok result)
    (hvalue : named.get? row column = some value) :
    ∃ value', result.get? row column = some value' ∧
      registry.applyToValue store eltwise value = .ok value' := by
  obtain ⟨values, hvalues, rfl⟩ := applyToMatrix_eq_ok.1 h
  obtain ⟨r, hr, hvalue⟩ := Option.bind_eq_some_iff.1 hvalue
  obtain ⟨c, hc, hvalue⟩ := Option.bind_eq_some_iff.1 hvalue
  rw [Matrix.get?] at hvalue
  split at hvalue
  · next hrange =>
    obtain ⟨value', hvalue', happly⟩ := applyToValue_of_applyToColumn hvalues hvalue
    refine ⟨value', ?_, happly⟩
    have hlength := (registry.pointwise_applyToColumn store eltwise).length_eq hvalues
    rw [NamedMatrix.get?, hr, hc]
    rw [← Matrix.place_of_length_eq hlength] at hvalue'
    exact (if_pos hrange).trans hvalue'
  · cases hvalue

end Registry

/-! ### Lookups -/

section Lookups

variable {store : Store} (hstore : store.WellFormed)

include hstore

/-- The place of an entry is within the length of its axis. -/
theorem Store.lt_of_entries {axis entry : String} {entries : List String} {length i : Nat}
    (hentries : store.entries? axis = some entries) (hlength : store.axisLength? axis = some length)
    (hi : entries[i]? = some entry) :
    i < length ∧ store.entryIndex ⟨axis, entry⟩ = .ok i := by
  obtain rfl : entries.length = length := length_eq_of_entries? hentries hlength
  exact ⟨(List.getElem?_eq_some_iff.1 hi).1, entryIndex_of_getElem? hstore hentries hi⟩

/-- The values of a slice are those of the cell lookups. -/
theorem VectorLookup.exists_get?_slice {filtered : FilteredAxis} {entry : AxisEntry}
    {name : String} {looked : NamedVector}
    (h : (VectorLookup.matrixSlice filtered entry name).eval store = .ok (some looked)) :
    ∀ row ∈ looked.entries, ∃ value, looked.get? row = some value ∧
      (ScalarLookup.matrixEntry ⟨filtered.axis, row⟩ entry name).eval store = .ok value := by
  intro row hrow
  obtain ⟨indices, column, m, values, -, hcolumn, hm, hvalues, hnamed⟩ := slice_eq_some.1 h
  obtain ⟨entries, hentries, -⟩ := Store.nameVector_eq_ok.1 hnamed
  obtain ⟨i, value, hi, hvalue, hget⟩ := Store.exists_get?_of_nameVector hentries hnamed hrow
  obtain ⟨-, -, hmatrix⟩ := Store.requireMatrix_eq_ok.1 hm
  obtain ⟨hshape, hnrows, hncols⟩ := hstore.matrix? hmatrix
  obtain ⟨hlt, hindex⟩ := Store.lt_of_entries hstore hentries hnrows hi
  have hlt' : column < m.ncols := by
    obtain ⟨all, hall, hidx⟩ := Store.entryIndex_eq_ok.1 hcolumn
    exact (Store.lt_of_entries hstore hall hncols (getElem?_of_idxOf? hidx)).1
  refine ⟨value, hget, ScalarLookup.matrixEntry_eq_ok.2 ⟨i, column, m, hindex, hcolumn, hm, ?_⟩⟩
  rw [← Matrix.get?_column hshape hlt hlt' hvalues, hvalue]

namespace MatrixLookup

variable {lookup : MatrixLookup} {looked : NamedMatrix}

/-- The values of a matrix are those of the cell lookups. -/
theorem exists_get? (h : lookup.eval store = .ok (some looked)) :
    ∀ row ∈ looked.rowEntries, ∀ column ∈ looked.columnEntries, ∃ value,
      looked.get? row column = some value ∧
        (ScalarLookup.matrixEntry ⟨lookup.rows.axis, row⟩ ⟨lookup.columns.axis, column⟩
          lookup.name).eval store = .ok value := by
  obtain ⟨rows, columns, m, rowEntries, columnEntries, picked, -, -, hm, ⟨hrowEntries, hrows⟩,
    ⟨hcolumnEntries, hcolumns⟩, hpicked, rfl⟩ := eval_eq_some.1 h
  obtain ⟨hshape, hnrows, hncols⟩ := hstore.matrix? hm
  have hnrows' : rowEntries.length = m.nrows := Store.length_eq_of_entries? hrowEntries hnrows
  have hncols' : columnEntries.length = m.ncols := Store.length_eq_of_entries? hcolumnEntries hncols
  intro row hrow column hcolumn
  obtain ⟨i, hi⟩ := exists_idxOf? hrow
  obtain ⟨j, hj⟩ := exists_idxOf? hcolumn
  -- the places in the answer stand for places on the axes
  have hi' := getElem?_of_idxOf? hi
  rw [Column.getElem?_pick hrows] at hi'
  obtain ⟨r, hr, hrow⟩ := Option.bind_eq_some_iff.1 hi'
  have hj' := getElem?_of_idxOf? hj
  rw [Column.getElem?_pick hcolumns] at hj'
  obtain ⟨c, hc, hcolumn⟩ := Option.bind_eq_some_iff.1 hj'
  obtain ⟨hr', hrow'⟩ := Store.lt_of_entries hstore hrowEntries hnrows hrow
  obtain ⟨hc', hcolumn'⟩ := Store.lt_of_entries hstore hcolumnEntries hncols hcolumn
  have hcell := Matrix.get?_select hpicked hr hc hr' hc'
  obtain ⟨value, hvalue⟩ : ∃ value, m.get? r c = some value := by
    rw [Matrix.get?_eq hr' hc']
    exact Column.exists_get? (Matrix.place_lt hshape hr' hc')
  refine ⟨value, ?_, ScalarLookup.matrixEntry_eq_ok.2 ⟨r, c, m, hrow', hcolumn', ?_, hvalue⟩⟩
  · rw [NamedMatrix.get?, hi, hj]
    exact hcell.trans hvalue
  · exact Store.requireMatrix_eq_ok.2 ⟨⟨_, hrowEntries⟩, ⟨_, hcolumnEntries⟩, hm⟩

/-- Where there is a matrix, there is a slice at each of its column entries, and its values are the
column of the matrix. -/
theorem exists_slice_column (h : lookup.eval store = .ok (some looked)) {j : Nat} {column : String}
    (hj : looked.columnEntries[j]? = some column) :
    ∃ slice, (VectorLookup.matrixSlice lookup.rows ⟨lookup.columns.axis, column⟩
        lookup.name).eval store = .ok (some slice) ∧
      slice.axis = lookup.rows.axis ∧ slice.entries = looked.rowEntries ∧
        looked.matrix.column? j = some slice.values := by
  obtain ⟨rows, columns, m, rowEntries, columnEntries, picked, hindices, -, hm,
    ⟨hrowEntries, hrows⟩, ⟨hcolumnEntries, hcolumns⟩, hpicked, rfl⟩ := eval_eq_some.1 h
  obtain ⟨hshape, hnrows, hncols⟩ := hstore.matrix? hm
  have hnrows' : rowEntries.length = m.nrows := Store.length_eq_of_entries? hrowEntries hnrows
  have hncols' : columnEntries.length = m.ncols := Store.length_eq_of_entries? hcolumnEntries hncols
  -- the place in the answer stands for a place on the axis
  rw [Column.getElem?_pick hcolumns] at hj
  obtain ⟨c, hc, hcolumn⟩ := Option.bind_eq_some_iff.1 hj
  obtain ⟨hc', hindex⟩ := Store.lt_of_entries hstore hcolumnEntries hncols hcolumn
  obtain ⟨values, hvalues, hlength⟩ := Matrix.exists_column? hshape hc'
  have hrows' : ∀ i ∈ rows, i < values.length := by
    rw [hlength, ← hnrows']
    exact hrows
  refine ⟨⟨lookup.rows.axis, Column.pick rowEntries rows, values.gather rows⟩, ?_, rfl, rfl, ?_⟩
  · exact VectorLookup.slice_eq_some.2 ⟨rows, c, m, values, hindices, hindex,
      Store.requireMatrix_eq_ok.2 ⟨⟨_, hrowEntries⟩, ⟨_, hcolumnEntries⟩, hm⟩, hvalues,
      Store.nameVector_eq_ok.2 ⟨rowEntries, hrowEntries, hrows, hrows', rfl⟩⟩
  · exact Matrix.column?_select hshape (hnrows' ▸ hrows) (hncols' ▸ hcolumns) hpicked hc hvalues

/-- Where there is a matrix, there is a slice at each of its columns, of values of its type. -/
theorem exists_slice (h : lookup.eval store = .ok (some looked)) {column : String}
    (hcolumn : column ∈ looked.columnEntries) :
    ∃ slice, (VectorLookup.matrixSlice lookup.rows ⟨lookup.columns.axis, column⟩
        lookup.name).eval store = .ok (some slice) ∧
      slice.axis = lookup.rows.axis ∧ slice.entries = looked.rowEntries ∧
        slice.values.type = looked.matrix.values.type := by
  obtain ⟨j, hj⟩ := List.getElem?_of_mem hcolumn
  obtain ⟨slice, hslice, haxis, hentries, hvalues⟩ := exists_slice_column hstore h hj
  exact ⟨slice, hslice, haxis, hentries, Column.type_of_select? hvalues⟩

end MatrixLookup

end Lookups

/-! ### Queries -/

/-- **Matrix, slice and entry queries read the same cells.** Where a matrix query has an answer,
the query of each pair of its entries is answered with the value of the matrix for that pair. The
slice at each column entry is answered, too, with the row entries of the matrix and its values in
that column. -/
theorem MatrixQuery.eval_eq_cells {store : Store} {registry : Registry}
    {rows columns : FilteredAxis} {name : String} {eltwise : List Invocation} {named : NamedMatrix}
    (hstore : store.Reachable)
    (h : (MatrixQuery.mk ⟨rows, columns, name⟩ eltwise).eval store registry = .ok (some named)) :
    ∀ column ∈ named.columnEntries,
      (∀ row ∈ named.rowEntries, ∃ value, named.get? row column = some value ∧
        (ScalarQuery.lookup (.matrixEntry ⟨rows.axis, row⟩ ⟨columns.axis, column⟩ name)
          eltwise).eval store registry = .ok (some value)) ∧
      ∃ slice, (VectorQuery.lookup (.matrixSlice rows ⟨columns.axis, column⟩ name) eltwise).eval
          store registry = .ok (some slice) ∧
        slice.axis = rows.axis ∧ slice.entries = named.rowEntries ∧
          ∀ row ∈ named.rowEntries, slice.get? row = named.get? row column := by
  have hwell := hstore.wellFormed
  obtain ⟨looked, hlooked, happly⟩ := eval_eq_some.1 h
  obtain ⟨values, hvalues, hnamed⟩ := Registry.applyToMatrix_eq_ok.1 happly
  have hrowEntries : named.rowEntries = looked.rowEntries := by rw [hnamed]
  have hcolumnEntries : named.columnEntries = looked.columnEntries := by rw [hnamed]
  intro column hcolumn
  rw [hcolumnEntries] at hcolumn
  have hcells : ∀ row ∈ named.rowEntries, ∃ value, named.get? row column = some value ∧
      (ScalarQuery.lookup (.matrixEntry ⟨rows.axis, row⟩ ⟨columns.axis, column⟩ name)
        eltwise).eval store registry = .ok (some value) := by
    intro row hrow
    rw [hrowEntries] at hrow
    obtain ⟨value, hvalue, hcell⟩ := MatrixLookup.exists_get? hwell hlooked row hrow column hcolumn
    obtain ⟨value', hvalue', happly'⟩ := Registry.exists_get?_of_applyToMatrix happly hvalue
    exact ⟨value', hvalue', ScalarQuery.lookup_eq_some.2 ⟨value, hcell, happly'⟩⟩
  refine ⟨hcells, ?_⟩
  obtain ⟨slice, hslice, haxis, hentries, htype⟩ :=
    MatrixLookup.exists_slice hwell hlooked hcolumn
  obtain ⟨values', hvalues'⟩ := Registry.exists_applyToColumn_of_type hvalues htype
  have heval : (VectorQuery.lookup (.matrixSlice rows ⟨columns.axis, column⟩ name) eltwise).eval
      store registry = .ok (some { slice with values := values' }) :=
    VectorQuery.lookup_eq_some.2
      ⟨slice, hslice, Registry.applyToVector_eq_ok.2 ⟨values', hvalues', rfl⟩⟩
  refine ⟨_, heval, haxis, hentries.trans hrowEntries.symm, fun row hrow => ?_⟩
  obtain ⟨value, hvalue, hcell⟩ := hcells row hrow
  rw [hrowEntries, ← hentries] at hrow
  obtain ⟨value', hvalue', hcell'⟩ := VectorQuery.exists_get?_of_lookup
    (fun _ => VectorLookup.exists_get?_slice hwell) heval row hrow
  -- both are the answer to the query of the one cell
  cases hcell.symm.trans hcell'
  rw [hvalue, hvalue']

/-- Two rows of a matrix that is stored with rows and columns exchanged. -/
theorem MatrixQuery.eval_cells_of_exchanged : ∃ store rows named, store.Reachable ∧
    MatrixQuery.parse .builtin "gene & name != B , cell @ counts % Abs" =
      .ok ⟨⟨rows, ⟨"cell", []⟩, "counts"⟩, [⟨"Abs", []⟩]⟩ ∧
    (MatrixQuery.mk ⟨rows, ⟨"cell", []⟩, "counts"⟩ [⟨"Abs", []⟩]).eval store .builtin =
      .ok (some named) ∧
    (∃ value, named.get? "C" "y" = some value ∧
      (ScalarQuery.lookup (.matrixEntry ⟨rows.axis, "C"⟩ ⟨"cell", "y"⟩ "counts")
        [⟨"Abs", []⟩]).eval store .builtin = .ok (some value)) ∧
    ∃ slice, (VectorQuery.lookup (.matrixSlice rows ⟨"cell", "y"⟩ "counts")
        [⟨"Abs", []⟩]).eval store .builtin = .ok (some slice) ∧
      slice.entries = ["A", "C"] ∧ slice.get? "C" = named.get? "C" "y" := by
  let other : AxisFilter := ⟨.and, ⟨⟨"name", []⟩, some ⟨.notEqual, "B"⟩, false⟩⟩
  let store : Store := (Store.empty "data").run [.addAxis "gene" ["A", "B", "C"],
    .addAxis "cell" ["x", "y"],
    .setMatrix "cell" "gene" "counts" ⟨2, 3, .int [1, 2, 3, 4, -5, -6]⟩]
  have hreachable : store.Reachable := (Store.Reachable.empty "data").run (by decide)
  have heval : ((MatrixQuery.mk ⟨⟨"gene", [other]⟩, ⟨"cell", []⟩, "counts"⟩ [⟨"Abs", []⟩]).eval
      store .builtin).toOption = some (some ⟨"gene", "cell", ["A", "C"], ["x", "y"],
        ⟨2, 2, .float [.ofNat 1, .ofNat 5, .ofNat 2, .ofNat 6]⟩⟩) := by
    decide +kernel
  have hparse : (MatrixQuery.parse .builtin
      "gene & name != B , cell @ counts % Abs").toOption =
        some ⟨⟨⟨"gene", [other]⟩, ⟨"cell", []⟩, "counts"⟩, [⟨"Abs", []⟩]⟩ := by
    decide +kernel
  rw [toOption_eq_some] at heval hparse
  obtain ⟨hcell, slice, hslice, -, hentries, hvalues⟩ :=
    eval_eq_cells hreachable heval "y" (by decide)
  exact ⟨store, _, _, hreachable, hparse, heval, hcell "C" (by decide), slice, hslice, hentries,
    hvalues "C" (by decide)⟩

end Axial
