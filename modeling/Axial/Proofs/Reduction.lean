import Axial.Proofs.MatrixCells
import Axial.Proofs.StoreHistory

/-!
# Reductions of matrices, column by column

A matrix is reduced to a vector along its columns: its values are transformed all at once, and then
cut into its columns, each of which is reduced by itself. The slice of the matrix at one of its
column entries takes the other way: one column is read, its rows are picked, and the values are
transformed and reduced as those of a vector. The places of the values agree, hence so do the
numbers.

* `Registry.applyToColumn_column` : operations on a matrix are operations on its columns.
* `Registry.reduceVector_of_reduceColumns` : the reduction of a column.
* `VectorQuery.eval_eq_reduced_slices` : a reduced matrix is made of its reduced slices.
-/

namespace Axial

namespace Registry

variable {registry : Registry} {store : Store}

/-- Operations on all values of a matrix are operations on each of its columns. -/
theorem applyToColumn_column {eltwise : List Invocation} {m : Matrix} {result column : Column}
    {j : Nat} (h : registry.applyToColumn store eltwise m.values = .ok result)
    (hcolumn : m.column? j = some column) :
    ∃ column', (Matrix.mk m.nrows m.ncols result).column? j = some column' ∧
      registry.applyToColumn store eltwise column = .ok column' := by
  have hpointwise := registry.pointwise_applyToColumn store eltwise
  obtain ⟨hrange, rfl⟩ := Column.select?_eq_some_iff.1 hcolumn
  have hlength := hpointwise.length_eq h
  refine ⟨_, Column.select?_eq_some_iff.2 ⟨?_, rfl⟩, ?_⟩
  · rw [Matrix.cellIndices_of_length_eq hlength, hlength]
    exact hrange
  · rw [Matrix.cellIndices_of_length_eq hlength]
    exact hpointwise.gather h _

/-- What a matrix is reduced to at a column is what the column is reduced to. -/
theorem reduceVector_of_reduceColumns {reduction : Invocation} {named : NamedMatrix}
    {vector slice : NamedVector} {j : Nat}
    (h : registry.reduceColumns store reduction named = .ok vector)
    (hj : j < named.matrix.ncols) (hslice : named.matrix.column? j = some slice.values) :
    ∃ value, vector.values.get? j = some value ∧
      registry.reduceVector store reduction slice = .ok value := by
  obtain ⟨numbers, reduced, hnumbers, hreduced, rfl⟩ := reduceColumns_eq_ok.1 h
  obtain ⟨x, hx, hcolumn⟩ := exists_getElem?_of_mapM_eq_ok hreduced (List.getElem?_range hj)
  obtain ⟨cut, hcut, hreduce⟩ := bind_eq_ok.1 hcolumn
  refine ⟨.float x, congrArg (Option.map Value.float) hx,
    reduceVector_eq_ok.2 ⟨cut, x, ?_, hreduce, rfl⟩⟩
  -- the numbers of the column are those that are cut out
  obtain ⟨-, hgather⟩ := Column.select?_eq_some_iff.1 hslice
  have hcut := Store.require_eq_ok.1 hcut
  have hend : j * named.matrix.nrows + named.matrix.nrows ≤ named.matrix.values.length := by
    rw [← Nat.succ_mul, ← Column.length_of_toFloats? hnumbers]
    exact Column.le_of_slice? hcut
  have hplaces : (List.range ((j + 1) * named.matrix.nrows - j * named.matrix.nrows)).map
        (j * named.matrix.nrows + ·) =
      named.matrix.cellIndices (List.range named.matrix.nrows) [j] := by
    rw [Nat.succ_mul, Nat.add_sub_cancel_left, Matrix.cellIndices, List.flatMap_singleton]
    refine List.map_congr_left fun row hrow => (Column.mod_words ?_).symm
    exact Nat.le_trans (Nat.add_le_add_left (List.mem_range.1 hrow).le _) hend
  rw [hgather, Column.toFloats?_gather, hnumbers, Option.map_some,
    Column.eq_pick_of_slice? hcut, hplaces]

end Registry

/-! ### Queries -/

/-- The column entries of a matrix are those that the filters keep. -/
theorem MatrixQuery.columnEntries_eq_filter {store : Store} {registry : Registry}
    (hstore : store.WellFormed) {query : MatrixQuery} {named : NamedMatrix}
    (h : query.eval store registry = .ok (some named)) :
    named.columnsAxis = query.lookup.columns.axis ∧
      ∃ entries, store.entries? query.lookup.columns.axis = some entries ∧
        query.lookup.columns.mask store = .ok (entries.map (query.lookup.columns.keeps store)) ∧
        named.columnEntries = entries.filter (query.lookup.columns.keeps store) := by
  obtain ⟨looked, hlooked, happly⟩ := eval_eq_some.1 h
  obtain ⟨values, -, rfl⟩ := Registry.applyToMatrix_eq_ok.1 happly
  obtain ⟨rows, columns, m, rowEntries, columnEntries, picked, -, hcolumns, -, -,
    ⟨hentries, -⟩, -, rfl⟩ := MatrixLookup.eval_eq_some.1 hlooked
  obtain ⟨mask, hmask, hkept⟩ := FilteredAxis.indices_eq_ok.1 hcolumns
  obtain ⟨-, rfl⟩ := FilteredAxis.mask_eq_map hstore hentries hmask
  refine ⟨rfl, columnEntries, hentries, hmask, ?_⟩
  obtain ⟨-, -, hnone⟩ | ⟨-, hsome⟩ := hkept
  · cases hnone
  · cases hsome
    exact Column.pick_keptIndices ..

/-- The slice at a column entry is a column of the matrix, also where operations are applied. -/
theorem MatrixQuery.exists_slice_column {store : Store} {registry : Registry}
    (hstore : store.WellFormed) {rows columns : FilteredAxis} {name column : String}
    {eltwise : List Invocation} {named : NamedMatrix} {j : Nat}
    (h : (MatrixQuery.mk ⟨rows, columns, name⟩ eltwise).eval store registry = .ok (some named))
    (hj : named.columnEntries[j]? = some column) :
    j < named.matrix.ncols ∧ ∃ slice,
      (VectorQuery.lookup (.matrixSlice rows ⟨columns.axis, column⟩ name) eltwise).eval store
        registry = .ok (some slice) ∧
      named.matrix.column? j = some slice.values := by
  obtain ⟨looked, hlooked, happly⟩ := eval_eq_some.1 h
  obtain ⟨values, hvalues, rfl⟩ := Registry.applyToMatrix_eq_ok.1 happly
  refine ⟨?_, ?_⟩
  · have hfits :=
      ((MatrixLookup.mk rows columns name).yields_eval hstore).of_eq_ok hlooked looked rfl
    exact hfits.ncols_eq ▸ (List.getElem?_eq_some_iff.1 hj).1
  · obtain ⟨slice, hslice, -, -, hcut⟩ := MatrixLookup.exists_slice_column hstore hlooked hj
    obtain ⟨values', hcut', happly'⟩ := Registry.applyToColumn_column hvalues hcut
    exact ⟨{ slice with values := values' }, VectorQuery.lookup_eq_some.2
      ⟨slice, hslice, Registry.applyToVector_eq_ok.2 ⟨values', happly', rfl⟩⟩, hcut'⟩

/-- **A reduced matrix is made of its reduced slices.** Where a matrix, transformed and reduced
column by column, has an answer, this runs along the columns axis. Its entries are those that the
filters of that axis keep, and its value at each of them is the answer to the query that takes the
slice there, transforms it by the same operations and reduces it. -/
theorem VectorQuery.eval_eq_reduced_slices {store : Store} {registry : Registry}
    {rows columns : FilteredAxis} {name : String} {before after : List Invocation}
    {reduction : Invocation} {vector : NamedVector} (hstore : store.Reachable)
    (h : (VectorQuery.reduced ⟨⟨rows, columns, name⟩, before⟩ reduction after).eval store
      registry = .ok (some vector)) :
    vector.axis = columns.axis ∧
      (∃ entries, store.entries? columns.axis = some entries ∧
        columns.mask store = .ok (entries.map (columns.keeps store)) ∧
        vector.entries = entries.filter (columns.keeps store)) ∧
      ∀ column ∈ vector.entries, ∃ value, vector.get? column = some value ∧
        (ScalarQuery.reduced (.lookup (.matrixSlice rows ⟨columns.axis, column⟩ name) before)
          reduction after).eval store registry = .ok (some value) := by
  have hwell := hstore.wellFormed
  obtain ⟨named, between, hnamed, hbetween, hafter⟩ := reduced_eq_some.1 h
  obtain ⟨haxis, hentries⟩ := MatrixQuery.columnEntries_eq_filter hwell hnamed
  obtain ⟨haxis', hentries'⟩ : between.axis = named.columnsAxis ∧
      between.entries = named.columnEntries := by
    obtain ⟨_, _, -, -, rfl⟩ := Registry.reduceColumns_eq_ok.1 hbetween
    exact ⟨rfl, rfl⟩
  obtain ⟨haxis'', hentries''⟩ : vector.axis = between.axis ∧ vector.entries = between.entries := by
    obtain ⟨_, -, rfl⟩ := Registry.applyToVector_eq_ok.1 hafter
    exact ⟨rfl, rfl⟩
  rw [haxis'', haxis', hentries'', hentries']
  refine ⟨haxis, hentries, fun column hcolumn => ?_⟩
  obtain ⟨j, hj⟩ := exists_idxOf? hcolumn
  obtain ⟨hlt, slice, hslice, hcut⟩ :=
    MatrixQuery.exists_slice_column hwell hnamed (getElem?_of_idxOf? hj)
  obtain ⟨value, hvalue, hreduce⟩ := Registry.reduceVector_of_reduceColumns hbetween hlt hcut
  have hget : between.get? column = some value := by
    rw [NamedVector.get?, hentries', hj]
    exact hvalue
  obtain ⟨value', hvalue', hafter'⟩ := Registry.exists_get?_of_applyToVector hafter hget
  exact ⟨value', hvalue', ScalarQuery.reduced_eq_some.2 ⟨slice, value, hslice, hreduce, hafter'⟩⟩

/-- The largest values of some genes in each of some cells. -/
theorem VectorQuery.eval_eq_reduced_slices_maxima : ∃ store rows columns vector value,
    store.Reachable ∧
      VectorQuery.parse .builtin
          "gene & name != B , cell & name != x @ counts % Abs %> Max % Abs" =
        .ok (.reduced ⟨⟨rows, columns, "counts"⟩, [⟨"Abs", []⟩]⟩ ⟨"Max", []⟩
          [⟨"Abs", []⟩]) ∧
      (VectorQuery.reduced ⟨⟨rows, columns, "counts"⟩, [⟨"Abs", []⟩]⟩ ⟨"Max", []⟩
          [⟨"Abs", []⟩]).eval store .builtin = .ok (some vector) ∧
      vector.axis = "cell" ∧ vector.entries = ["y", "z"] ∧ vector.get? "z" = some value ∧
      (ScalarQuery.reduced (.lookup (.matrixSlice rows ⟨"cell", "z"⟩ "counts") [⟨"Abs", []⟩])
          ⟨"Max", []⟩ [⟨"Abs", []⟩]).eval store .builtin =
        .ok (some value) := by
  let others (entry : String) : AxisFilter :=
    ⟨.and, ⟨⟨"name", []⟩, some ⟨.notEqual, entry⟩, false⟩⟩
  let query : VectorQuery := .reduced
    ⟨⟨⟨"gene", [others "B"]⟩, ⟨"cell", [others "x"]⟩, "counts"⟩, [⟨"Abs", []⟩]⟩ ⟨"Max", []⟩
    [⟨"Abs", []⟩]
  let store : Store := (Store.empty "data").run [.addAxis "gene" ["A", "B", "C"],
    .addAxis "cell" ["x", "y", "z"],
    .setMatrix "gene" "cell" "counts" ⟨3, 3, .int [1, 2, 3, 4, -5, -6, 7, 8, 9]⟩]
  have hreachable : store.Reachable := (Store.Reachable.empty "data").run (by decide)
  have heval : (query.eval store .builtin).toOption =
      some (some ⟨"cell", ["y", "z"], .float [.ofNat 6, .ofNat 9]⟩) := by
    decide +kernel
  have hparse : (VectorQuery.parse .builtin
      "gene & name != B , cell & name != x @ counts % Abs %> Max % Abs").toOption =
        some query := by
    decide +kernel
  rw [toOption_eq_some] at heval hparse
  obtain ⟨haxis, -, hslices⟩ := eval_eq_reduced_slices hreachable heval
  obtain ⟨value, hvalue, hslice⟩ := hslices "z" (by decide)
  exact ⟨store, _, _, _, value, hreachable, hparse, heval, haxis, rfl, hvalue, hslice⟩

end Axial
