import Axial.Proofs.AnswerShape

/-!
# Single values of columns and matrices

What is picked from a column or a matrix is told here value by value: each operation has one lemma
that says where a value of its result comes from.

* `Column.get?_gather`, `Column.gather_gather` : values picked from a column, once and twice.
* `Column.pick_keptIndices` : the items that a mask keeps.
* `Matrix.get?_select`, `Matrix.get?_column`, `Matrix.get?_transpose` : cells of a submatrix, of a
  column, and with rows and columns exchanged.
* `Matrix.ext_get?` : matrices with the same cells; `Matrix.transpose?_of_transpose?`,
  `Matrix.column?_select` and `Matrix.select?_transpose` follow cell by cell.
-/

namespace Axial

/-! ### Positions in lists -/

section Positions

variable {α β γ : Type}

/-- The place of an item among distinct ones. -/
theorem idxOf?_of_getElem? {entries : List String} (hnodup : entries.Nodup) {entry : String}
    {i : Nat} (h : entries[i]? = some entry) : entries.idxOf? entry = some i := by
  obtain ⟨hi, rfl⟩ := List.getElem?_eq_some_iff.1 h
  refine List.idxOf?_eq_some_iff.2 ⟨hi, rfl, fun j hj heq => ?_⟩
  exact absurd ((List.getElem_inj hnodup).1 heq) (Nat.ne_of_lt hj)

theorem exists_idxOf? {entries : List String} {entry : String} (h : entry ∈ entries) :
    ∃ i, entries.idxOf? entry = some i :=
  Option.isSome_iff_exists.1 (List.isSome_idxOf?.2 h)

/-- The item at its own place. -/
theorem getElem?_of_idxOf? {entries : List String} {entry : String} {i : Nat}
    (h : entries.idxOf? entry = some i) : entries[i]? = some entry := by
  obtain ⟨hi, heq, -⟩ := List.idxOf?_eq_some_iff.1 h
  exact List.getElem?_eq_some_iff.2 ⟨hi, heq⟩

theorem rel_getElem?_of_forall₂ {R : α → β → Prop} {items : List α} {others : List β}
    (h : List.Forall₂ R items others) (i : Nat) : Option.Rel R items[i]? others[i]? := by
  induction h generalizing i with
  | nil => exact .none
  | cons hab _ ih =>
    cases i with
    | zero => exact .some hab
    | succ i => simpa using ih i

/-- The result of a sequence at the place of an item. -/
theorem exists_getElem?_of_mapM_eq_ok {ε : Type} {f : α → Except ε β} {items : List α}
    {results : List β} (h : items.mapM f = .ok results) {i : Nat} {a : α}
    (hi : items[i]? = some a) : ∃ b, results[i]? = some b ∧ f a = .ok b := by
  have hrel := rel_getElem?_of_forall₂ (mapM_eq_ok.1 h) i
  rw [hi] at hrel
  cases hb : results[i]? with
  | none =>
    rw [hb] at hrel
    cases hrel
  | some b =>
    rw [hb] at hrel
    cases hrel with
    | some hab => exact ⟨b, rfl, hab⟩

/-- Blocks of one length follow each other. -/
theorem getElem?_flatMap_map (outer : List α) {inner : List β} (f : α → β → γ) {i : Nat}
    (hi : i < inner.length) (j : Nat) :
    (outer.flatMap fun a => inner.map (f a))[j * inner.length + i]? =
      outer[j]?.bind fun a => inner[i]?.map (f a) := by
  induction outer generalizing j with
  | nil => rfl
  | cons a outer ih =>
    rw [List.flatMap_cons]
    cases j with
    | zero =>
      rw [Nat.zero_mul, Nat.zero_add, List.getElem?_append_left (by simpa using hi)]
      simp
    | succ j =>
      have hskip : (j + 1) * inner.length + i = (inner.map (f a)).length +
          (j * inner.length + i) := by
        rw [List.length_map, Nat.succ_mul]
        omega
      rw [hskip, List.getElem?_append_right (Nat.le_add_right ..), Nat.add_sub_cancel_left, ih]
      rfl

end Positions

/-! ### Columns -/

namespace Column

variable {α β : Type} {items : List α} {indices more : List Nat} {column : Column}

theorem getElem?_pick (h : ∀ i ∈ indices, i < items.length) (j : Nat) :
    (pick items indices)[j]? = indices[j]?.bind (items[·]?) := by
  rw [pick_eq_filterMap]
  induction indices generalizing j with
  | nil => rfl
  | cons i indices ih =>
    have hi := List.getElem?_eq_getElem (h i List.mem_cons_self)
    rw [List.filterMap_cons_some hi]
    cases j with
    | zero => simp [hi]
    | succ j => simpa using ih (fun k hk => h k (List.mem_cons_of_mem _ hk)) j

/-- The value at a place of a gathered column is the one at the index that was asked for. -/
theorem get?_gather (h : ∀ i ∈ indices, i < column.length) (j : Nat) :
    (column.gather indices).get? j = indices[j]?.bind column.get? := by
  cases column <;>
    (rw [gather, get?, getElem?_pick h]
     cases indices[j]? <;> rfl)

theorem mem_of_mem_pick {a : α} (h : a ∈ pick items indices) : a ∈ items := by
  rw [pick_eq_filterMap] at h
  obtain ⟨i, -, hi⟩ := List.mem_filterMap.1 h
  exact List.mem_of_getElem? hi

theorem pick_map (f : α → β) (items : List α) (indices : List Nat) :
    pick (items.map f) indices = (pick items indices).map f := by
  simp only [pick_eq_filterMap, List.map_filterMap, List.getElem?_map]

theorem pick_range (items : List α) : pick items (List.range items.length) = items := by
  rw [pick_eq_filterMap, filterMap_getElem?_range]

theorem gather_range (column : Column) : column.gather (List.range column.length) = column := by
  cases column <;> exact congrArg _ (pick_range _)

/-- Picking from what was picked is picking at once. -/
theorem pick_pick (h : ∀ i ∈ indices, i < items.length) (more : List Nat) :
    pick (pick items indices) more = pick items (pick indices more) := by
  calc pick (pick items indices) more
      = more.filterMap fun j => indices[j]?.bind (items[·]?) := by
        simp only [pick_eq_filterMap (pick items indices), getElem?_pick h]
    _ = pick items (pick indices more) := by
        rw [pick_eq_filterMap items, pick_eq_filterMap indices, List.filterMap_filterMap]

theorem gather_gather (h : ∀ i ∈ indices, i < column.length) (more : List Nat) :
    (column.gather indices).gather more = column.gather (pick indices more) := by
  cases column <;> exact congrArg _ (pick_pick h more)

@[simp] theorem type_gather (column : Column) (indices : List Nat) :
    (column.gather indices).type = column.type := by
  cases column <;> rfl

theorem toFloats?_gather (column : Column) (indices : List Nat) :
    (column.gather indices).toFloats? = column.toFloats?.map (pick · indices) := by
  cases column with
  | int values => exact congrArg some (pick_map ..).symm
  | _ => rfl

theorem le_of_slice? {sliced : List α} {start stop : Nat}
    (h : slice? items start stop = some sliced) : stop ≤ items.length := by
  unfold slice? at h
  split at h
  · next hrange => exact hrange.2
  · cases h

/-- The items from one index up to another one are those at the indices between them. -/
theorem eq_pick_of_slice? {sliced : List α} {start stop : Nat}
    (h : slice? items start stop = some sliced) :
    sliced = pick items ((List.range (stop - start)).map (start + ·)) := by
  unfold slice? at h
  split at h
  · cases h
    have hrange : ∀ i ∈ (List.range (stop - start)).map (start + ·), i < items.length := by
      simp only [List.mem_map, List.mem_range]
      omega
    refine List.ext_getElem? fun i => ?_
    rw [getElem?_pick hrange, List.getElem?_take, List.getElem?_drop, List.getElem?_map]
    by_cases hi : i < stop - start
    · rw [if_pos hi, List.getElem?_range hi]
      rfl
    · rw [if_neg hi, List.getElem?_eq_none (by simpa using hi)]
      rfl
  · cases h

/-- Lists in step stay in step where the same places are picked. -/
theorem forall₂_pick {R : α → β → Prop} {others : List β}
    (h : List.Forall₂ R items others) (indices : List Nat) :
    List.Forall₂ R (pick items indices) (pick others indices) := by
  rw [pick_eq_filterMap, pick_eq_filterMap]
  refine List.rel_filterMap (R := Eq) ?_ (List.forall₂_refl indices)
  rintro i _ rfl
  exact rel_getElem?_of_forall₂ h i

/-- The column of one value of a column. -/
theorem gather_singleton {i : Nat} {value : Value} (h : column.get? i = some value) :
    column.gather [i] = .ofValue value := by
  cases column <;>
    (obtain ⟨a, ha, rfl⟩ := Option.map_eq_some_iff.1 h
     simp [gather, pick_eq_filterMap, ha, ofValue])

@[simp] theorem get?_ofValue (value : Value) : (ofValue value).get? 0 = some value := by
  cases value <;> rfl

theorem ofValue_eq_string {value : Value} {names : List String} :
    ofValue value = .string names ↔ ∃ name, value = .string name ∧ names = [name] := by
  cases value <;> simp [ofValue, eq_comm]

theorem exists_get? {i : Nat} (h : i < column.length) : ∃ value, column.get? i = some value := by
  rw [← length_cells] at h
  exact ⟨_, (cells_getElem? column i).symm.trans (List.getElem?_eq_getElem h)⟩

theorem lt_of_get? {i : Nat} {value : Value} (h : column.get? i = some value) :
    i < column.length := by
  rw [← cells_getElem?] at h
  rw [← length_cells]
  exact (List.getElem?_eq_some_iff.1 h).1

/-- The column of one value is what is selected at the place of the value. -/
theorem select?_singleton {i : Nat} {value : Value} (h : column.get? i = some value) :
    column.select? [i] = some (.ofValue value) := by
  rw [select?_eq_some (List.forall_mem_singleton.2 (lt_of_get? h)), gather_singleton h]

theorem get?_eq_none {i : Nat} (h : column.length ≤ i) : column.get? i = none := by
  rw [← cells_getElem?]
  rw [← length_cells] at h
  exact List.getElem?_eq_none h

theorem type_of_select? {picked : Column} (h : column.select? indices = some picked) :
    picked.type = column.type := by
  simp only [select?] at h
  split at h
  · cases h
    exact type_gather ..
  · cases h

/-- A column is determined by its type and its values; the type of a column without values is not
told by them. -/
theorem ext_get? {other : Column} (htype : column.type = other.type)
    (h : ∀ i, column.get? i = other.get? i) : column = other := by
  have hcells : column.cells = other.cells := by
    refine List.ext_getElem? fun i => ?_
    rw [cells_getElem?, cells_getElem?, h]
  cases column <;> cases other <;> cases htype <;>
    exact congrArg _ (List.map_injective_iff.2 (fun _ _ heq => by cases heq; rfl) hcells)

/-- What is looked up at the places that a mask keeps, if the places are counted from `n` on. -/
theorem filterMap_kept (p : α → Bool) (items : List α) (n : Nat) (look : Nat → Option α)
    (hlook : ∀ i, look (n + i) = items[i]?) :
    ((((items.map p).zipIdx n).filter (·.1)).map (·.2)).filterMap look = items.filter p := by
  induction items generalizing n with
  | nil => rfl
  | cons a items ih =>
    have hhead : look n = some a := hlook 0
    have htail := ih (n + 1) fun i => by
      rw [Nat.add_assoc, Nat.add_comm 1 i]
      exact hlook (i + 1)
    rw [List.map_cons, List.zipIdx_cons, List.filter_cons, List.filter_cons]
    cases p a with
    | true =>
      simp only [↓reduceIte, List.map_cons]
      rw [List.filterMap_cons_some hhead, htail]
    | false => simpa using htail

theorem keptIndices_map_true (items : List α) :
    keptIndices (items.map fun _ => true) = List.range items.length := by
  have hall : ∀ p ∈ (items.map fun _ => true).zipIdx, p.1 = true := by
    intro p hp
    obtain ⟨_, -, h⟩ := List.mem_map.1 (List.fst_mem_of_mem_zipIdx hp)
    exact h.symm
  rw [keptIndices, List.filter_eq_self.2 hall, List.zipIdx_map_snd, List.length_map,
    List.range_eq_range']

/-- The items that a mask keeps. -/
theorem pick_keptIndices (items : List α) (p : α → Bool) :
    pick items (keptIndices (items.map p)) = items.filter p := by
  rw [pick_eq_filterMap]
  exact filterMap_kept p items 0 _ fun i => by rw [Nat.zero_add]

end Column

/-! ### Matrices -/

namespace Matrix

variable {m : Matrix}

theorem get?_eq {row column : Nat} (hrow : row < m.nrows) (hcolumn : column < m.ncols) :
    m.get? row column = m.values.get? (m.place row column) :=
  if_pos ⟨hrow, hcolumn⟩

/-- Other values, if they are as many, have the same places. -/
theorem place_of_length_eq {values : Column} (h : values.length = m.values.length)
    (row column : Nat) : place ⟨m.nrows, m.ncols, values⟩ row column = m.place row column := by
  rw [place, place, Column.words, Column.words, h]

theorem cellIndices_of_length_eq {values : Column} (h : values.length = m.values.length)
    (rows columns : List Nat) :
    cellIndices ⟨m.nrows, m.ncols, values⟩ rows columns = m.cellIndices rows columns := by
  simp only [cellIndices, place_of_length_eq h]

theorem rowMajorIndices_of_length_eq {values : Column} (h : values.length = m.values.length) :
    rowMajorIndices ⟨m.nrows, m.ncols, values⟩ = m.rowMajorIndices := by
  simp only [rowMajorIndices, place_of_length_eq h]

/-- What is selected has as many values as cells. -/
theorem shape_of_select? {picked : Matrix} {rows columns : List Nat}
    (h : m.select? rows columns = some picked) :
    picked.WellShaped ∧ picked.nrows = rows.length ∧ picked.ncols = columns.length := by
  obtain ⟨values, hvalues, rfl⟩ := Option.map_eq_some_iff.1 h
  obtain ⟨hrange, rfl⟩ := Column.select?_eq_some_iff.1 hvalues
  exact ⟨(Column.length_gather hrange).trans (length_cellIndices rows columns), rfl, rfl⟩

/-- A cell of a submatrix is the one in the row and the column that were asked for. -/
theorem get?_select {picked : Matrix} {rows columns : List Nat} {i j row column : Nat}
    (h : m.select? rows columns = some picked) (hi : rows[i]? = some row)
    (hj : columns[j]? = some column) (hrow : row < m.nrows) (hcolumn : column < m.ncols) :
    picked.get? i j = m.get? row column := by
  obtain ⟨hpicked, -⟩ := shape_of_select? h
  obtain ⟨values, hvalues, rfl⟩ := Option.map_eq_some_iff.1 h
  obtain ⟨hrange, rfl⟩ := Column.select?_eq_some_iff.1 hvalues
  have hi' : i < rows.length := (List.getElem?_eq_some_iff.1 hi).1
  have hj' : j < columns.length := (List.getElem?_eq_some_iff.1 hj).1
  have hcell : (m.cellIndices rows columns)[j * rows.length + i]? = some (m.place row column) := by
    rw [cellIndices, getElem?_flatMap_map columns _ hi', hi, hj]
    rfl
  rw [get?_eq (m := ⟨_, _, _⟩) hi' hj', place_eq hpicked hi' hj', Column.get?_gather hrange, hcell,
    get?_eq hrow hcolumn]
  rfl

/-- The values of a column are its cells. -/
theorem get?_column {values : Column} {row column : Nat} (hm : m.WellShaped)
    (hrow : row < m.nrows) (hcolumn : column < m.ncols) (h : m.column? column = some values) :
    values.get? row = m.get? row column := by
  have hrange : ∀ i ∈ m.cellIndices (List.range m.nrows) [column], i < m.values.length :=
    lt_of_mem_cellIndices hm (fun _ => List.mem_range.1) (by simpa using hcolumn)
  rw [column?, Column.select?_eq_some hrange] at h
  cases h
  rw [Column.get?_gather hrange, get?_eq hrow hcolumn]
  simp [cellIndices, List.getElem?_range hrow]

/-- The transposed matrix has as many values as cells, and the rows and the columns of the matrix as
its columns and its rows. -/
theorem shape_of_transpose? {transposed : Matrix} (hm : m.WellShaped)
    (h : m.transpose? = some transposed) :
    transposed.WellShaped ∧ transposed.nrows = m.ncols ∧ transposed.ncols = m.nrows := by
  obtain ⟨_, hsome, hshape⟩ := exists_transpose? hm
  cases h.symm.trans hsome
  exact hshape

/-- The cells of the transposed matrix. -/
theorem get?_transpose {transposed : Matrix} {row column : Nat} (hm : m.WellShaped)
    (h : m.transpose? = some transposed) : transposed.get? column row = m.get? row column := by
  obtain ⟨hshape, hnrows, hncols⟩ := shape_of_transpose? hm h
  by_cases hin : row < m.nrows ∧ column < m.ncols
  · obtain ⟨hrow, hcolumn⟩ := hin
    have hcolumn' : column < (List.range m.ncols).length := by simpa using hcolumn
    have hcell : m.rowMajorIndices[row * m.ncols + column]? = some (m.place row column) := by
      have hblock := getElem?_flatMap_map (List.range m.nrows)
        (fun row column => m.place row column) hcolumn' row
      rw [List.length_range, List.getElem?_range hrow, List.getElem?_range hcolumn] at hblock
      exact hblock
    rw [get?_eq (hnrows ▸ hcolumn) (hncols ▸ hrow), place_eq hshape (hnrows ▸ hcolumn)
      (hncols ▸ hrow), hnrows, get?_eq hrow hcolumn]
    cases (transpose?_eq_some hm).symm.trans h
    rw [Column.get?_gather (lt_of_mem_rowMajorIndices hm), hcell]
    rfl
  · rw [get?, get?, if_neg hin, hnrows, hncols, if_neg fun h => hin h.symm]

theorem get?_eq_none {row column : Nat} (h : ¬ (row < m.nrows ∧ column < m.ncols)) :
    m.get? row column = none :=
  if_neg h

/-- A matrix is determined by its shape, the type of its values, and its cells. -/
theorem ext_get? {other : Matrix} (hm : m.WellShaped) (hother : other.WellShaped)
    (hnrows : m.nrows = other.nrows) (hncols : m.ncols = other.ncols)
    (htype : m.values.type = other.values.type)
    (h : ∀ row column, m.get? row column = other.get? row column) : m = other := by
  obtain ⟨nrows, ncols, values⟩ := m
  obtain ⟨nrows', ncols', values'⟩ := other
  obtain rfl : nrows = nrows' := hnrows
  obtain rfl : ncols = ncols' := hncols
  congr 1
  refine Column.ext_get? htype fun i => ?_
  by_cases hi : i < nrows * ncols
  · -- the place of a value tells its row and its column
    have hrow : i % nrows < nrows := Nat.mod_lt _ (Nat.pos_of_ne_zero fun h0 => by simp [h0] at hi)
    have hcolumn : i / nrows < ncols := Nat.div_lt_of_lt_mul hi
    have hplace : i / nrows * nrows + i % nrows = i := Nat.div_add_mod' i nrows
    have hcell := h (i % nrows) (i / nrows)
    rw [get?_eq hrow hcolumn, get?_eq hrow hcolumn, place_eq hm hrow hcolumn,
      place_eq hother hrow hcolumn] at hcell
    simpa only [hplace] using hcell
  · rw [Column.get?_eq_none, Column.get?_eq_none]
    · exact Nat.le_trans (Nat.le_of_eq hother) (Nat.le_of_not_lt hi)
    · exact Nat.le_trans (Nat.le_of_eq hm) (Nat.le_of_not_lt hi)

theorem type_of_transpose? {transposed : Matrix} (h : m.transpose? = some transposed) :
    transposed.values.type = m.values.type := by
  obtain ⟨values, hvalues, rfl⟩ := Option.map_eq_some_iff.1 h
  exact Column.type_of_select? hvalues

/-- The exchange of rows and columns undoes itself. -/
theorem transpose?_of_transpose? {transposed : Matrix} (hm : m.WellShaped)
    (h : m.transpose? = some transposed) : transposed.transpose? = some m := by
  obtain ⟨hshape, hnrows, hncols⟩ := shape_of_transpose? hm h
  obtain ⟨twice, htwice, hshape', hnrows', hncols'⟩ := exists_transpose? hshape
  rw [htwice]
  refine congrArg some (ext_get? hshape' hm (hnrows'.trans hncols) (hncols'.trans hnrows)
    ((type_of_transpose? htwice).trans (type_of_transpose? h)) fun row column => ?_)
  rw [get?_transpose hshape htwice, get?_transpose hm h]

theorem type_of_select? {picked : Matrix} {rows columns : List Nat}
    (h : m.select? rows columns = some picked) : picked.values.type = m.values.type := by
  obtain ⟨values, hvalues, rfl⟩ := Option.map_eq_some_iff.1 h
  exact Column.type_of_select? hvalues

/-- A column of a submatrix is what the rows leave of the column that was asked for. -/
theorem column?_select {picked : Matrix} {values : Column} {rows columns : List Nat}
    {j column : Nat} (hm : m.WellShaped) (hrows : ∀ row ∈ rows, row < m.nrows)
    (hcolumns : ∀ column ∈ columns, column < m.ncols) (h : m.select? rows columns = some picked)
    (hj : columns[j]? = some column) (hvalues : m.column? column = some values) :
    picked.column? j = some (values.gather rows) := by
  obtain ⟨_, hpicked, hshape, hnrows, hncols⟩ := exists_select? hm hrows hcolumns
  cases h.symm.trans hpicked
  have hcolumn : column < m.ncols := hcolumns column (List.mem_of_getElem? hj)
  have hj' : j < picked.ncols := hncols ▸ (List.getElem?_eq_some_iff.1 hj).1
  obtain ⟨_, hvalues', hlength⟩ := exists_column? hm hcolumn
  cases hvalues.symm.trans hvalues'
  obtain ⟨sliced, hsliced, hlength'⟩ := exists_column? hshape hj'
  have hrange : ∀ row ∈ rows, row < values.length := hlength ▸ hrows
  rw [hsliced]
  congr 1
  refine Column.ext_get? ?_ fun i => ?_
  · rw [Column.type_gather, Column.type_of_select? hsliced, type_of_select? h,
      Column.type_of_select? hvalues]
  · rw [Column.get?_gather hrange]
    by_cases hi : i < rows.length
    · have hrow := List.getElem?_eq_getElem hi
      have hlt := hrows _ (List.getElem_mem hi)
      rw [get?_column hshape (hnrows ▸ hi) hj' hsliced, get?_select h hrow hj hlt hcolumn, hrow,
        Option.bind_some, get?_column hm hlt hcolumn hvalues]
    · rw [Column.get?_eq_none (by omega), List.getElem?_eq_none (by omega)]
      rfl

/-- All rows and all columns of a matrix are the matrix. -/
theorem select?_range (hm : m.WellShaped) :
    m.select? (List.range m.nrows) (List.range m.ncols) = some m := by
  have hrows : ∀ row ∈ List.range m.nrows, row < m.nrows := fun _ => List.mem_range.1
  have hcolumns : ∀ column ∈ List.range m.ncols, column < m.ncols := fun _ => List.mem_range.1
  obtain ⟨picked, hpicked, hshape, hnrows, hncols⟩ := exists_select? hm hrows hcolumns
  rw [List.length_range] at hnrows hncols
  rw [hpicked]
  refine congrArg some (ext_get? hshape hm hnrows hncols (type_of_select? hpicked) ?_)
  intro row column
  by_cases hin : row < m.nrows ∧ column < m.ncols
  · exact get?_select hpicked (List.getElem?_range hin.1) (List.getElem?_range hin.2) hin.1 hin.2
  · rw [get?_eq_none, get?_eq_none hin]
    rwa [hnrows, hncols]

/-- Selecting columns and rows of the transposed matrix is transposing what is selected. -/
theorem select?_transpose {transposed picked : Matrix} {rows columns : List Nat} (hm : m.WellShaped)
    (hrows : ∀ row ∈ rows, row < m.nrows) (hcolumns : ∀ column ∈ columns, column < m.ncols)
    (h : m.transpose? = some transposed) (hpicked : m.select? rows columns = some picked) :
    transposed.select? columns rows = picked.transpose? := by
  obtain ⟨hm', hnrows', hncols'⟩ := shape_of_transpose? hm h
  have hrows' : ∀ row ∈ rows, row < transposed.ncols := hncols' ▸ hrows
  have hcolumns' : ∀ column ∈ columns, column < transposed.nrows := hnrows' ▸ hcolumns
  obtain ⟨_, hsome, hshape, hnrows, hncols⟩ := exists_select? hm hrows hcolumns
  cases hpicked.symm.trans hsome
  obtain ⟨first, hfirst, hshapeFirst, hrowsFirst, hcolumnsFirst⟩ :=
    exists_select? hm' hcolumns' hrows'
  obtain ⟨last, hlast, hshapeLast, hrowsLast, hcolumnsLast⟩ := exists_transpose? hshape
  rw [hfirst, hlast]
  refine congrArg some (ext_get? hshapeFirst hshapeLast ?_ ?_ ?_ fun column row => ?_)
  · rw [hrowsFirst, hrowsLast, hncols]
  · rw [hcolumnsFirst, hcolumnsLast, hnrows]
  · rw [type_of_select? hfirst, type_of_transpose? h, type_of_transpose? hlast,
      type_of_select? hpicked]
  · rw [get?_transpose hshape hlast]
    by_cases hin : row < rows.length ∧ column < columns.length
    · obtain ⟨hrow, hcolumn⟩ := hin
      have hi := List.getElem?_eq_getElem hrow
      have hj := List.getElem?_eq_getElem hcolumn
      have hrow' := List.getElem_mem hrow
      have hcolumn' := List.getElem_mem hcolumn
      rw [get?_select hfirst hj hi (hcolumns' _ hcolumn') (hrows' _ hrow'), get?_transpose hm h,
        get?_select hpicked hi hj (hrows _ hrow') (hcolumns _ hcolumn')]
    · rw [get?_eq_none, get?_eq_none]
      · rwa [hnrows, hncols]
      · rw [hrowsFirst, hcolumnsFirst, and_comm]
        exact hin

end Matrix

end Axial
