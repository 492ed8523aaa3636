import Axial.Proofs.Parts
import Axial.Proofs.StoreInvariant
import Axial.Evaluation.Query
import Axial.Operation.Builtin

/-!
# The shape of answers

Evaluation keeps within the data of its store: it never asks for a value out of range, and never
for an operation that its query was not parsed with. Its answers have as many values as entries,
and their entries are some of those of their axes, in order.

* `Yields` : what a computation gives unless it fails for a reason of the query's own.
* `Answer.Fits` : the shape of the answer to a query.
* `Query.yields_eval_of_parse` : every parsed query is answered in shape, from every reachable
  store.

Each function of the evaluation has one lemma, named for the function, that says what it yields
from a well-formed store.
-/

namespace Axial

/-! ### Computations that fail for reasons of the query -/

/-- The failures that no query accounts for: values out of range of their axis, and operations
that are gone. -/
def EvalCause.IsInternal : EvalCause → Prop
  | .outOfRange => True
  | .unknownOperation .. => True
  | _ => False

/-- The result of a computation is as asked, or it fails and the query accounts for that. -/
def Yields {α : Type} (x : Except EvalError α) (P : α → Prop) : Prop :=
  match x with
  | .ok a => P a
  | .error e => ¬ e.cause.IsInternal

section Yields

variable {α β : Type} {P : α → Prop} {Q : β → Prop} {x : Except EvalError α}
  {f : α → Except EvalError β} {store : Store} {cause : EvalCause}

theorem Yields.bind (hx : Yields x P) (hf : ∀ a, P a → Yields (f a) Q) : Yields (x >>= f) Q := by
  cases x with
  | error e => exact hx
  | ok a => exact hf a hx

theorem Yields.mono {R : α → Prop} (hx : Yields x P) (h : ∀ a, P a → R a) : Yields x R := by
  cases x with
  | error e => exact hx
  | ok a => exact h a hx

theorem Yields.of_eq_ok {a : α} (hx : Yields x P) (h : x = .ok a) : P a := by
  rw [h] at hx
  exact hx

theorem yields_refuse (hcause : ¬ cause.IsInternal) : Yields (store.refuse cause) P :=
  hcause

theorem yields_require {a? : Option α} (hcause : ¬ cause.IsInternal) (h : ∀ a, a? = some a → P a) :
    Yields (store.require cause a?) P := by
  cases a? with
  | none => exact hcause
  | some a => exact h a rfl

theorem yields_require_some {a? : Option α} {a : α} (ha : a? = some a) (h : P a) :
    Yields (store.require cause a?) P := by
  subst ha
  exact h

theorem yields_mapM {items : List α} (h : ∀ a ∈ items, Yields (f a) Q) :
    Yields (items.mapM f) (fun bs => bs.length = items.length ∧ ∀ b ∈ bs, Q b) := by
  induction items with
  | nil => exact ⟨rfl, by simp⟩
  | cons a items ih =>
    rw [List.mapM_cons]
    refine (h a List.mem_cons_self).bind ?_
    intro b hb
    refine (ih fun a ha => h a (List.mem_cons_of_mem _ ha)).bind ?_
    intro bs hbs
    refine ⟨by simp [hbs.1], fun b' hb' => ?_⟩
    rcases List.mem_cons.1 hb' with rfl | hb'
    · exact hb
    · exact hbs.2 b' hb'

theorem yields_foldlM {items : List β} {step : α → β → Except EvalError α} {a : α}
    (hstep : ∀ a b, b ∈ items → P a → Yields (step a b) P) (ha : P a) :
    Yields (items.foldlM step a) P := by
  induction items generalizing a with
  | nil => exact ha
  | cons b items ih =>
    rw [List.foldlM_cons]
    exact (hstep a b List.mem_cons_self ha).bind fun a' ha' =>
      ih (fun a b hb => hstep a b (List.mem_cons_of_mem _ hb)) ha'

theorem yields_mapM_option {a? : Option α} (h : ∀ a ∈ a?, Yields (f a) Q) :
    Yields (a?.mapM f) (fun b? => ∀ b ∈ b?, Q b) := by
  cases a? with
  | none => exact nofun
  | some a =>
    refine (h a rfl).bind ?_
    intro b hb b' hb'
    cases hb'
    exact hb

end Yields

/-! ### Picking values -/

namespace Column

variable {α : Type} {items : List α} {indices : List Nat} {column : Column}

theorem pick?_eq_some (h : ∀ i ∈ indices, i < items.length) :
    pick? items indices = some (pick items indices) := by
  simpa [pick?] using h

theorem select?_eq_some (h : ∀ i ∈ indices, i < column.length) :
    column.select? indices = some (column.gather indices) := by
  simpa [select?] using h

theorem length_pick (h : ∀ i ∈ indices, i < items.length) :
    (pick items indices).length = indices.length := by
  rw [pick_eq_filterMap]
  induction indices with
  | nil => rfl
  | cons i indices ih =>
    have hi : i < items.length := h i List.mem_cons_self
    rw [List.filterMap_cons_some (List.getElem?_eq_getElem hi)]
    simp [ih fun j hj => h j (List.mem_cons_of_mem _ hj)]

theorem length_gather (h : ∀ i ∈ indices, i < column.length) :
    (column.gather indices).length = indices.length := by
  cases column <;> exact length_pick h

theorem filterMap_getElem?_range (items : List α) :
    (List.range items.length).filterMap (items[·]?) = items := by
  induction items with
  | nil => rfl
  | cons a items ih =>
    rw [List.length_cons, List.range_succ_eq_map, List.filterMap_cons_some (by rfl),
      List.filterMap_map]
    exact congrArg (a :: ·) ih

/-- Picking in order keeps the order. -/
theorem pick_sublist (h : indices.Sublist (List.range items.length)) :
    (pick items indices).Sublist items := by
  have hpicked := h.filterMap (items[·]?)
  rwa [filterMap_getElem?_range, ← pick_eq_filterMap] at hpicked

theorem lt_of_sublist_range {n : Nat} (h : indices.Sublist (List.range n)) :
    ∀ i ∈ indices, i < n :=
  fun _ hi => List.mem_range.1 (h.subset hi)

theorem slice?_eq_some {start stop : Nat} (hle : start ≤ stop) (hstop : stop ≤ items.length) :
    slice? items start stop = some ((items.drop start).take (stop - start)) :=
  if_pos ⟨hle, hstop⟩

theorem length_of_toFloats? {numbers : List Binary64} (h : column.toFloats? = some numbers) :
    numbers.length = column.length := by
  cases column <;> cases h <;> simp [length]

end Column

theorem keptIndices_sublist (mask : List Bool) :
    (keptIndices mask).Sublist (List.range mask.length) := by
  have h : (mask.zipIdx.filter (·.1)).Sublist mask.zipIdx := List.filter_sublist
  have hmap := h.map Prod.snd
  rwa [List.zipIdx_map_snd, ← List.range_eq_range'] at hmap

namespace Matrix

variable {m : Matrix}

theorem lt_of_wellShaped {row column : Nat} (hm : m.WellShaped) (hrow : row < m.nrows)
    (hcolumn : column < m.ncols) : column * m.nrows + row < m.values.length := by
  rw [hm, Nat.mul_comm m.nrows]
  calc column * m.nrows + row < column * m.nrows + m.nrows := by omega
    _ = (column + 1) * m.nrows := (Nat.succ_mul ..).symm
    _ ≤ m.ncols * m.nrows := Nat.mul_le_mul_right _ hcolumn

/-- The place of a cell in range does not come round. -/
theorem place_eq {row column : Nat} (hm : m.WellShaped) (hrow : row < m.nrows)
    (hcolumn : column < m.ncols) : m.place row column = column * m.nrows + row :=
  Column.mod_words (Nat.le_of_lt (lt_of_wellShaped hm hrow hcolumn))

/-- Cells in range have values. -/
theorem place_lt {row column : Nat} (hm : m.WellShaped) (hrow : row < m.nrows)
    (hcolumn : column < m.ncols) : m.place row column < m.values.length := by
  rw [place_eq hm hrow hcolumn]
  exact lt_of_wellShaped hm hrow hcolumn

theorem lt_of_mem_cellIndices {rows columns : List Nat} (hm : m.WellShaped)
    (hrows : ∀ row ∈ rows, row < m.nrows) (hcolumns : ∀ column ∈ columns, column < m.ncols) :
    ∀ i ∈ m.cellIndices rows columns, i < m.values.length := by
  simp only [cellIndices, List.mem_flatMap, List.mem_map]
  rintro i ⟨column, hcolumn, row, hrow, rfl⟩
  exact place_lt hm (hrows row hrow) (hcolumns column hcolumn)

theorem lt_of_mem_rowMajorIndices (hm : m.WellShaped) :
    ∀ i ∈ m.rowMajorIndices, i < m.values.length := by
  simp only [rowMajorIndices, List.mem_flatMap, List.mem_map, List.mem_range]
  rintro i ⟨row, hrow, column, hcolumn, rfl⟩
  exact place_lt hm hrow hcolumn

theorem length_cellIndices (rows columns : List Nat) :
    (m.cellIndices rows columns).length = rows.length * columns.length := by
  simp [cellIndices, List.length_flatMap, List.map_const', Nat.mul_comm]

theorem length_rowMajorIndices : m.rowMajorIndices.length = m.ncols * m.nrows := by
  simp [rowMajorIndices, List.length_flatMap, List.map_const', Nat.mul_comm]

/-- A column in range has as many values as there are rows. -/
theorem exists_column? {column : Nat} (hm : m.WellShaped) (hcolumn : column < m.ncols) :
    ∃ values, m.column? column = some values ∧ values.length = m.nrows := by
  have hrange : ∀ i ∈ m.cellIndices (List.range m.nrows) [column], i < m.values.length :=
    lt_of_mem_cellIndices hm (fun _ => List.mem_range.1) (by simpa using hcolumn)
  refine ⟨_, Column.select?_eq_some hrange, (Column.length_gather hrange).trans ?_⟩
  rw [length_cellIndices, List.length_range, List.length_singleton, Nat.mul_one]

/-- Rows and columns in range can be selected. -/
theorem exists_select? {rows columns : List Nat} (hm : m.WellShaped)
    (hrows : ∀ row ∈ rows, row < m.nrows) (hcolumns : ∀ column ∈ columns, column < m.ncols) :
    ∃ picked, m.select? rows columns = some picked ∧ picked.WellShaped ∧
      picked.nrows = rows.length ∧ picked.ncols = columns.length := by
  have hrange := lt_of_mem_cellIndices hm hrows hcolumns
  refine ⟨⟨rows.length, columns.length, m.values.gather (m.cellIndices rows columns)⟩, ?_, ?_, rfl,
    rfl⟩
  · rw [select?, Column.select?_eq_some hrange]
    rfl
  · exact (Column.length_gather hrange).trans (length_cellIndices rows columns)

theorem transpose?_eq_some (hm : m.WellShaped) :
    m.transpose? = some ⟨m.ncols, m.nrows, m.values.gather m.rowMajorIndices⟩ := by
  rw [transpose?, Column.select?_eq_some (lt_of_mem_rowMajorIndices hm)]
  rfl

/-- Rows and columns can be exchanged. -/
theorem exists_transpose? (hm : m.WellShaped) :
    ∃ transposed, m.transpose? = some transposed ∧ transposed.WellShaped ∧
      transposed.nrows = m.ncols ∧ transposed.ncols = m.nrows := by
  have hlength := Column.length_gather (lt_of_mem_rowMajorIndices hm)
  exact ⟨_, transpose?_eq_some hm, hlength.trans length_rowMajorIndices, rfl, rfl⟩

end Matrix

/-! ### Properties -/

section Evaluation

variable {store : Store} (hstore : store.WellFormed)

namespace Store

theorem yields_requireEntries (axis : String) :
    Yields (store.requireEntries axis) (store.entries? axis = some ·) :=
  yields_require nofun fun _ h => h

theorem yields_entryIndex (entry : AxisEntry) :
    Yields (store.entryIndex entry)
      (fun index => ∃ length, store.axisLength? entry.axis = some length ∧ index < length) := by
  refine (yields_requireEntries entry.axis).bind ?_
  intro entries hentries
  refine yields_require nofun fun index hindex =>
    ⟨entries.length, axisLength?_of_entries? hentries, ?_⟩
  exact (List.idxOf?_eq_some_iff.1 hindex).1

include hstore

theorem yields_property (axis name : String) :
    Yields (store.property axis name)
      (fun values => store.axisLength? axis = some values.length) := by
  refine (yields_requireEntries axis).bind ?_
  intro entries hentries
  split
  · exact axisLength?_of_entries? hentries
  · exact yields_require nofun fun values hvalues => hstore.vector axis name values hvalues

/-- A property has a value for each entry of its axis. -/
theorem length_eq_of_property {axis name : String} {entries : List String} {values : Column}
    (hentries : store.entries? axis = some entries) (h : store.property axis name = .ok values) :
    entries.length = values.length :=
  length_eq_of_entries? hentries ((yields_property hstore axis name).of_eq_ok h)

/-- A chain keeps the number of values. -/
theorem yields_follow (axis property : String) (values : Column) (rest : List String) :
    Yields (store.follow axis property values rest) (·.length = values.length) := by
  -- each property of the chain is looked up along another axis, so the axis varies
  induction rest generalizing axis property values with
  | nil => exact rfl
  | cons next rest ih =>
    unfold follow
    split
    · next names =>
      refine Yields.bind (yields_require nofun fun _ _ => trivial) ?_
      intro target _
      refine (yields_requireEntries target).bind ?_
      intro entries hentries
      have hnames : Yields (names.mapM fun name =>
          store.require (.danglingValue name property axis target) (entries.idxOf? name))
          (fun indices => indices.length = names.length ∧ ∀ i ∈ indices, i < entries.length) :=
        yields_mapM fun name _ => yields_require nofun fun index hindex =>
          (List.idxOf?_eq_some_iff.1 hindex).1
      refine hnames.bind ?_
      intro indices hindices
      refine (yields_property hstore target next).bind ?_
      intro all hall
      have hlength : all.length = entries.length := (length_eq_of_entries? hentries hall).symm
      have hrange : ∀ i ∈ indices, i < all.length := hlength ▸ hindices.2
      refine Yields.bind (yields_require_some (Column.select?_eq_some hrange) rfl) ?_
      rintro _ rfl
      refine (ih target next _).mono ?_
      intro last hlast
      rw [hlast, Column.length_gather hrange, hindices.1]
      rfl
    · exact yields_refuse nofun

end Store

theorem Column.length_of_compareTo? {values : Column} {literal : String}
    {orderings : List (Option Ordering)} (h : values.compareTo? literal = some orderings) :
    orderings.length = values.length := by
  cases values with
  | string texts =>
    cases h
    simp [Column.length]
  | _ =>
    obtain ⟨_, -, rfl⟩ := Option.map_eq_some_iff.1 h
    simp [Column.length]

theorem PropertyTest.yields_outcomes (test : PropertyTest) (axis : String)
    (property : PropertyChain) (values : Column) :
    Yields (test.outcomes store axis property values) (·.length = values.length) := by
  unfold outcomes
  split
  · split
    · refine Yields.bind (yields_require nofun fun _ _ => trivial) ?_
      intro regex _
      exact List.length_map _
    · exact yields_refuse nofun
  · refine Yields.bind (yields_require nofun fun _ h => Column.length_of_compareTo? h) ?_
    intro orderings horderings
    exact (List.length_map _).trans horderings

namespace AxisLookup

variable (lookup : AxisLookup)

theorem yields_finish (axis : String) (values : Column) :
    Yields (lookup.finish store axis values) (·.length = values.length) := by
  unfold finish
  split
  · split
    · exact List.length_map _
    · exact yields_refuse nofun
  · split
    · exact rfl
    · next test _ => exact (test.yields_outcomes axis lookup.property values).bind fun _ h => h

include hstore

theorem yields_valuesFrom (axis : String) (first : Column) :
    Yields (lookup.valuesFrom store axis first) (·.length = first.length) := by
  refine (Store.yields_follow hstore axis lookup.property.first first _).bind ?_
  intro last hlast
  exact (lookup.yields_finish axis last).mono fun values h => h.trans hlast

theorem yields_values (axis : String) :
    Yields (lookup.values store axis)
      (fun values => store.axisLength? axis = some values.length) := by
  refine (Store.yields_property hstore axis lookup.property.first).bind ?_
  intro first hfirst
  exact (lookup.yields_valuesFrom hstore axis first).mono fun values h => h ▸ hfirst

/-- A lookup along an axis has a value for each of its entries. -/
theorem length_eq_of_values {axis : String} {entries : List String} {values : Column}
    (hentries : store.entries? axis = some entries) (h : lookup.values store axis = .ok values) :
    entries.length = values.length :=
  Store.length_eq_of_entries? hentries ((lookup.yields_values hstore axis).of_eq_ok h)

theorem yields_valueAt (entry : AxisEntry) :
    Yields (lookup.valueAt store entry) (fun _ => True) := by
  refine (Store.yields_entryIndex entry).bind ?_
  rintro index ⟨length, hlength, hindex⟩
  refine (Store.yields_property hstore entry.axis lookup.property.first).bind ?_
  intro all hall
  have hrange : ∀ i ∈ [index], i < all.length := by
    have : length = all.length := Option.some.inj (hlength.symm.trans hall)
    simpa [← this] using hindex
  refine Yields.bind (yields_require_some (Column.select?_eq_some hrange) rfl) ?_
  rintro _ rfl
  refine (lookup.yields_valuesFrom hstore entry.axis _).bind ?_
  intro last _
  exact yields_require nofun fun _ _ => trivial

end AxisLookup

/-! ### Filtered axes -/

/-- The indices of some entries of an axis, in order. -/
def Store.Indexes (store : Store) (axis : String) (indices : List Nat) : Prop :=
  ∃ length, store.axisLength? axis = some length ∧ indices.Sublist (List.range length)

theorem Store.Indexes.lt {axis : String} {indices : List Nat} {length : Nat}
    (h : store.Indexes axis indices) (hlength : store.axisLength? axis = some length) :
    ∀ i ∈ indices, i < length := by
  obtain ⟨length', hlength', hsub⟩ := h
  obtain rfl : length = length' := Option.some.inj (hlength.symm.trans hlength')
  exact Column.lt_of_sublist_range hsub

include hstore

theorem AxisFilter.yields_bits (filter : AxisFilter) (axis : String) :
    Yields (filter.bits store axis) (fun bits => store.axisLength? axis = some bits.length) := by
  refine (filter.lookup.yields_values hstore axis).bind ?_
  intro values hvalues
  split
  · exact hvalues
  · exact yields_refuse nofun

namespace FilteredAxis

variable (axis : FilteredAxis)

/-- A mask is as long as its axis. -/
theorem yields_mask :
    Yields (axis.mask store) (fun mask => store.axisLength? axis.axis = some mask.length) := by
  refine (Store.yields_requireEntries axis.axis).bind ?_
  intro entries hentries
  -- the invariant of the filters is the length of the mask
  refine yields_foldlM (fun mask filter _ hmask => ?_)
    ((Store.axisLength?_of_entries? hentries).trans (by rw [List.length_map]))
  refine (filter.yields_bits hstore axis.axis).bind ?_
  intro bits hbits
  have hlength : mask.length = bits.length := Option.some.inj (hmask.symm.trans hbits)
  show store.axisLength? axis.axis = some (List.zipWith _ mask bits).length
  simpa [hlength] using hbits

theorem yields_indices :
    Yields (axis.indices store) (fun indices? => ∀ indices ∈ indices?,
      store.Indexes axis.axis indices) := by
  refine (axis.yields_mask hstore).bind ?_
  intro mask hmask indices hindices
  split at hindices
  · cases hindices
  · cases hindices
    exact ⟨mask.length, hmask, keptIndices_sublist mask⟩

end FilteredAxis

/-! ### Lookups -/

/-- Distinct entries of an axis, in order. -/
def Store.Selects (store : Store) (axis : String) (entries : List String) : Prop :=
  ∃ all, store.entries? axis = some all ∧ entries.Sublist all ∧ entries.Nodup

/-- There are as many values as entries, which are distinct entries of the axis in order. -/
structure NamedVector.Fits (store : Store) (axis : String) (vector : NamedVector) : Prop where
  axis_eq : vector.axis = axis
  selects : store.Selects axis vector.entries
  length_eq : vector.values.length = vector.entries.length

/-- There are as many rows, columns and values as the entries ask for, which are distinct entries
of the axes in order. -/
structure NamedMatrix.Fits (store : Store) (rows columns : String) (named : NamedMatrix) :
    Prop where
  rowsAxis_eq : named.rowsAxis = rows
  columnsAxis_eq : named.columnsAxis = columns
  selects_rows : store.Selects rows named.rowEntries
  selects_columns : store.Selects columns named.columnEntries
  nrows_eq : named.matrix.nrows = named.rowEntries.length
  ncols_eq : named.matrix.ncols = named.columnEntries.length
  wellShaped : named.matrix.WellShaped

/-- The entries at some indices of an axis. -/
theorem Store.Indexes.pick {axis : String} {indices : List Nat} {entries : List String}
    (h : store.Indexes axis indices) (hentries : store.entries? axis = some entries) :
    Column.pick? entries indices = some (Column.pick entries indices) ∧
      store.Selects axis (Column.pick entries indices) ∧
      (Column.pick entries indices).length = indices.length := by
  obtain ⟨length, hlength, hsub⟩ := h
  obtain rfl : entries.length = length := length_eq_of_entries? hentries hlength
  have hrange := Column.lt_of_sublist_range hsub
  have hpick := Column.pick_sublist hsub
  exact ⟨Column.pick?_eq_some hrange,
    ⟨entries, hentries, hpick, hpick.nodup (hstore.nodup axis entries hentries)⟩,
    Column.length_pick hrange⟩

theorem Store.yields_nameVector {axis : String} {indices : List Nat} {values : Column}
    (hindices : store.Indexes axis indices)
    (hvalues : store.axisLength? axis = some values.length) :
    Yields (store.nameVector axis indices values) (NamedVector.Fits store axis) := by
  refine (Store.yields_requireEntries axis).bind ?_
  intro entries hentries
  obtain ⟨hpick, hselects, hlength⟩ := hindices.pick hstore hentries
  refine Yields.bind (yields_require_some hpick rfl) ?_
  rintro _ rfl
  have hrange := hindices.lt hvalues
  refine Yields.bind (yields_require_some (Column.select?_eq_some hrange) rfl) ?_
  rintro _ rfl
  exact ⟨rfl, hselects, (Column.length_gather hrange).trans hlength.symm⟩

/-- A matrix that is there is presented, and in the shape of the axes, in either order of them. -/
theorem Store.WellFormed.exists_matrix {rows columns name : String} {shown? : Option Matrix}
    (h : store.matrix? rows columns name = some shown?) :
    ∃ m, shown? = some m ∧ m.WellShaped ∧ store.axisLength? rows = some m.nrows ∧
      store.axisLength? columns = some m.ncols := by
  unfold Store.matrix? at h
  split at h
  · next stored hstored =>
    cases h
    exact ⟨stored, rfl, hstore.matrix rows columns name _ hstored⟩
  · -- it is stored in the other order of the axes
    obtain ⟨stored, hstored, rfl⟩ := Option.map_eq_some_iff.1 h
    obtain ⟨hshape, hcolumns, hrows⟩ := hstore.matrix columns rows name stored hstored
    obtain ⟨m, hm, hshape', hnrows, hncols⟩ := Matrix.exists_transpose? hshape
    exact ⟨m, hm, hshape', hnrows ▸ hrows, hncols ▸ hcolumns⟩

theorem Store.WellFormed.matrix? {rows columns name : String} {m : Matrix}
    (h : store.matrix? rows columns name = some (some m)) :
    m.WellShaped ∧ store.axisLength? rows = some m.nrows ∧
      store.axisLength? columns = some m.ncols := by
  obtain ⟨_, hsome, hshape⟩ := hstore.exists_matrix h
  cases hsome
  exact hshape

theorem Store.yields_requireMatrix (rows columns name : String) :
    Yields (store.requireMatrix rows columns name) (fun m =>
      m.WellShaped ∧ store.axisLength? rows = some m.nrows ∧
        store.axisLength? columns = some m.ncols) := by
  refine (Store.yields_requireEntries rows).bind ?_
  intro _ _
  refine (Store.yields_requireEntries columns).bind ?_
  intro _ _
  have hshown : Yields (store.require (.missingMatrix name rows columns)
      (store.matrix? rows columns name)) (fun shown? => ∃ m, shown? = some m ∧ m.WellShaped ∧
        store.axisLength? rows = some m.nrows ∧ store.axisLength? columns = some m.ncols) :=
    yields_require nofun fun _ hshown => hstore.exists_matrix hshown
  refine hshown.bind ?_
  rintro _ ⟨m, rfl, hm⟩
  exact yields_require_some rfl hm

theorem ScalarLookup.yields_eval (lookup : ScalarLookup) :
    Yields (lookup.eval store) (fun _ => True) := by
  cases lookup with
  | scalar name => exact yields_require nofun fun _ _ => trivial
  | vectorEntry entry property => exact property.yields_valueAt hstore entry
  | matrixEntry rows columns name =>
    refine (Store.yields_entryIndex rows).bind ?_
    intro row _
    refine (Store.yields_entryIndex columns).bind ?_
    intro column _
    refine (Store.yields_requireMatrix hstore rows.axis columns.axis name).bind ?_
    intro m _
    exact yields_require nofun fun _ _ => trivial

/-- The axis of a vector. -/
def VectorLookup.axis : VectorLookup → String
  | .vector axis _ => axis.axis
  | .matrixSlice axis _ _ => axis.axis

theorem VectorLookup.yields_eval (lookup : VectorLookup) :
    Yields (lookup.eval store) (fun vector? => ∀ vector ∈ vector?,
      vector.Fits store lookup.axis) := by
  cases lookup with
  | vector axis property =>
    refine (axis.yields_indices hstore).bind ?_
    intro indices? hindices
    cases indices? with
    | none => exact nofun
    | some indices =>
      refine (property.yields_values hstore axis.axis).bind ?_
      intro values hvalues
      refine (Store.yields_nameVector hstore (hindices indices rfl) hvalues).bind
        fun vector hvector => ?_
      rintro _ ⟨⟩
      exact hvector
  | matrixSlice axis entry name =>
    refine (axis.yields_indices hstore).bind ?_
    intro indices? hindices
    cases indices? with
    | none => exact nofun
    | some indices =>
      refine (Store.yields_entryIndex entry).bind ?_
      rintro column ⟨length, hlength, hcolumn⟩
      refine (Store.yields_requireMatrix hstore axis.axis entry.axis name).bind
        fun m ⟨hshape, hrows, hcolumns⟩ => ?_
      obtain rfl : length = m.ncols := Option.some.inj (hlength.symm.trans hcolumns)
      obtain ⟨values, hvalues, hvalues'⟩ := Matrix.exists_column? hshape hcolumn
      refine Yields.bind (yields_require_some hvalues rfl) ?_
      rintro _ rfl
      refine (Store.yields_nameVector hstore (hindices indices rfl) (hvalues' ▸ hrows)).bind
        fun vector hvector => ?_
      rintro _ ⟨⟩
      exact hvector

theorem MatrixLookup.yields_eval (lookup : MatrixLookup) :
    Yields (lookup.eval store) (fun named? => ∀ named ∈ named?,
      named.Fits store lookup.rows.axis lookup.columns.axis) := by
  refine (lookup.rows.yields_indices hstore).bind ?_
  intro rows? hrows
  cases rows? with
  | none => exact nofun
  | some rows =>
    refine (lookup.columns.yields_indices hstore).bind ?_
    intro columns? hcolumns
    cases columns? with
    | none => exact nofun
    | some columns =>
      replace hrows := hrows rows rfl
      replace hcolumns := hcolumns columns rfl
      refine (Store.yields_requireMatrix hstore _ _ _).bind ?_
      rintro m ⟨hshape, hnrows, hncols⟩
      refine (Store.yields_requireEntries lookup.rows.axis).bind ?_
      intro rowEntries hrowEntries
      refine (Store.yields_requireEntries lookup.columns.axis).bind
        fun columnEntries hcolumnEntries => ?_
      obtain ⟨hpick, hselects, hlength⟩ := hrows.pick hstore hrowEntries
      obtain ⟨hpick', hselects', hlength'⟩ := hcolumns.pick hstore hcolumnEntries
      refine Yields.bind (yields_require_some hpick rfl) ?_
      rintro _ rfl
      refine Yields.bind (yields_require_some hpick' rfl) ?_
      rintro _ rfl
      obtain ⟨picked, hpicked, hshape', hnrows', hncols'⟩ := Matrix.exists_select? hshape
        (hrows.lt hnrows) (hcolumns.lt hncols)
      refine Yields.bind (yields_require_some hpicked rfl) ?_
      rintro _ rfl _ ⟨⟩
      exact ⟨rfl, rfl, hselects, hselects', hnrows'.trans hlength.symm, hncols'.trans hlength'.symm,
        hshape'⟩

omit hstore

/-! ### Operations -/

/-- The operation of an invocation is in the registry. -/
def Invocation.IsRegistered (registry : Registry) (kind : OperationKind) (invocation : Invocation) :
    Prop :=
  (registry.signature? kind invocation.name).isSome

namespace Registry

variable {registry : Registry} {eltwise : List Invocation} {reduction : Invocation}

theorem isSome_eltwise? {invocation : Invocation} (h : invocation.IsRegistered registry .eltwise) :
    (registry.eltwise? invocation.name invocation.parameters).isSome := by
  simpa [Invocation.IsRegistered, signature?, signatures, eltwise?] using h

theorem isSome_reduction? (h : reduction.IsRegistered registry .reduction) :
    (registry.reduction? reduction.name reduction.parameters).isSome := by
  simpa [Invocation.IsRegistered, signature?, signatures, reduction?] using h

theorem yields_reduce (h : reduction.IsRegistered registry .reduction) (numbers : List Binary64) :
    Yields (registry.reduce store reduction numbers) (fun _ => True) := by
  obtain ⟨f, hf⟩ := Option.isSome_iff_exists.1 (isSome_reduction? h)
  exact Yields.bind (yields_require_some hf rfl) fun _ _ => trivial

theorem yields_numbers (operation : String) (values : Column) :
    Yields (store.numbers operation values) (·.length = values.length) :=
  yields_require nofun fun _ h => Column.length_of_toFloats? h

/-- A reduction gives one value for each column. -/
theorem yields_reduceColumns {rows columns : String} {named : NamedMatrix}
    (h : reduction.IsRegistered registry .reduction) (hnamed : named.Fits store rows columns) :
    Yields (registry.reduceColumns store reduction named) (NamedVector.Fits store columns) := by
  refine (yields_numbers reduction.name named.matrix.values).bind ?_
  intro numbers hnumbers
  have hlength : numbers.length = named.matrix.nrows * named.matrix.ncols :=
    hnumbers.trans hnamed.wellShaped
  refine (yields_mapM (Q := fun _ => True) fun column hcolumn => ?_).bind
    fun reduced ⟨hreduced, _⟩ => ?_
  · -- the slice of a column ends where the next one starts
    have hstop : (column + 1) * named.matrix.nrows ≤ numbers.length := by
      rw [hlength, Nat.mul_comm named.matrix.nrows]
      exact Nat.mul_le_mul_right _ (List.mem_range.1 hcolumn)
    have hstart : column * named.matrix.nrows ≤ (column + 1) * named.matrix.nrows :=
      Nat.mul_le_mul_right _ (Nat.le_succ column)
    refine Yields.bind (yields_require_some (Column.slice?_eq_some hstart hstop) rfl) ?_
    exact fun slice _ => yields_reduce h slice
  · refine ⟨hnamed.columnsAxis_eq, hnamed.selects_columns, ?_⟩
    exact hreduced.trans (by rw [List.length_range, hnamed.ncols_eq])

theorem yields_reduceVector (h : reduction.IsRegistered registry .reduction)
    (vector : NamedVector) :
    Yields (registry.reduceVector store reduction vector) (fun _ => True) := by
  refine (yields_numbers reduction.name vector.values).bind ?_
  intro numbers _
  exact (yields_reduce h numbers).bind fun _ _ => trivial

variable (heltwise : ∀ invocation ∈ eltwise, invocation.IsRegistered registry .eltwise)

include heltwise

theorem yields_pipeline : Yields (registry.pipeline store eltwise) (fun _ => True) := by
  refine yields_foldlM (fun before invocation hmem _ => ?_) trivial
  obtain ⟨f, hf⟩ := Option.isSome_iff_exists.1 (isSome_eltwise? (heltwise invocation hmem))
  exact Yields.bind (yields_require_some hf rfl) fun _ _ => trivial

/-- Element-wise operations keep the number of values. -/
theorem yields_applyToColumn (values : Column) :
    Yields (registry.applyToColumn store eltwise values) (·.length = values.length) := by
  unfold applyToColumn
  split
  · exact rfl
  · next first _ =>
    refine (yields_numbers first.name values).bind ?_
    intro numbers hnumbers
    exact (yields_pipeline heltwise).bind fun f _ => (List.length_map f).trans hnumbers

theorem yields_applyToValue (value : Value) :
    Yields (registry.applyToValue store eltwise value) (fun _ => True) := by
  unfold applyToValue
  split
  · trivial
  · refine (yields_applyToColumn heltwise (.ofValue value)).bind ?_
    intro values hvalues
    -- one value stays one value
    have hlength : values.cells.length = 1 := by
      rw [Column.length_cells, hvalues]
      cases value <;> rfl
    obtain ⟨first, hfirst⟩ := List.length_eq_one_iff.1 hlength
    have hget : values.get? 0 = some first := by
      rw [← Column.cells_getElem?, hfirst]
      rfl
    exact yields_require_some hget trivial

theorem yields_applyToVector {axis : String} {vector : NamedVector}
    (h : vector.Fits store axis) :
    Yields (registry.applyToVector store eltwise vector) (NamedVector.Fits store axis) := by
  refine (yields_applyToColumn heltwise vector.values).bind ?_
  intro values hvalues
  exact ⟨h.axis_eq, h.selects, hvalues.trans h.length_eq⟩

theorem yields_applyToMatrix {rows columns : String} {named : NamedMatrix}
    (h : named.Fits store rows columns) :
    Yields (registry.applyToMatrix store eltwise named) (NamedMatrix.Fits store rows columns) := by
  refine (yields_applyToColumn heltwise named.matrix.values).bind ?_
  intro values hvalues
  exact ⟨h.rowsAxis_eq, h.columnsAxis_eq, h.selects_rows, h.selects_columns, h.nrows_eq,
    h.ncols_eq, hvalues.trans h.wellShaped⟩

end Registry

/-! ### Queries -/

/-- The axis of the answer to a vector query. -/
def VectorQuery.axis : VectorQuery → String
  | .lookup source _ => source.axis
  | .reduced matrix _ _ => matrix.lookup.columns.axis

/-- An answer has the arity and the axes of its query, and the shape that they ask for. -/
def Answer.Fits (store : Store) : Query → Answer → Prop
  | .scalar _, .scalar _ => True
  | .vector query, .vector v => v.Fits store query.axis
  | .matrix query, .matrix m => m.Fits store query.lookup.rows.axis query.lookup.columns.axis
  | _, _ => False

variable {registry : Registry} {N : String → Prop}

include hstore

theorem MatrixQuery.yields_eval {query : MatrixQuery}
    (hquery : query.IsMadeOf N (Invocation.IsRegistered registry)) :
    Yields (query.eval store registry) (fun named? => ∀ named ∈ named?,
      named.Fits store query.lookup.rows.axis query.lookup.columns.axis) := by
  refine (query.lookup.yields_eval hstore).bind ?_
  intro named? hnamed
  exact yields_mapM_option fun named hmem =>
    Registry.yields_applyToMatrix hquery.eltwise (hnamed named hmem)

theorem VectorQuery.yields_eval {query : VectorQuery}
    (hquery : query.IsMadeOf N (Invocation.IsRegistered registry)) :
    Yields (query.eval store registry) (fun vector? => ∀ vector ∈ vector?,
      vector.Fits store query.axis) := by
  cases query with
  | lookup source eltwise =>
    refine (source.yields_eval hstore).bind ?_
    intro vector? hvector
    exact yields_mapM_option fun vector hmem =>
      Registry.yields_applyToVector hquery.2 (hvector vector hmem)
  | reduced matrix reduction eltwise =>
    obtain ⟨hmatrix, hreduction, heltwise⟩ := hquery
    refine (MatrixQuery.yields_eval hstore hmatrix).bind ?_
    intro named? hnamed
    refine yields_mapM_option ?_
    intro named hmem
    refine (Registry.yields_reduceColumns hreduction (hnamed named hmem)).bind ?_
    intro vector h
    exact Registry.yields_applyToVector heltwise h

theorem ScalarQuery.yields_eval {query : ScalarQuery}
    (hquery : query.IsMadeOf N (Invocation.IsRegistered registry)) :
    Yields (query.eval store registry) (fun _ => True) := by
  cases query with
  | lookup source eltwise =>
    refine (source.yields_eval hstore).bind ?_
    intro value _
    exact (Registry.yields_applyToValue hquery.2 value).bind fun _ _ => trivial
  | reduced vector reduction eltwise =>
    obtain ⟨hvector, hreduction, heltwise⟩ := hquery
    refine (VectorQuery.yields_eval hstore hvector).bind ?_
    intro vector? _
    refine (yields_mapM_option (Q := fun _ => True) fun vector _ => ?_).mono fun _ _ => trivial
    refine (Registry.yields_reduceVector hreduction vector).bind ?_
    intro value _
    exact Registry.yields_applyToValue heltwise value

theorem Query.yields_eval {query : Query}
    (hquery : query.IsMadeOf N (Invocation.IsRegistered registry)) :
    Yields (query.eval store registry) (fun answer? => ∀ answer ∈ answer?,
      answer.Fits store query) := by
  cases query with
  | scalar query =>
    refine (query.yields_eval hstore hquery).bind ?_
    intro value? _ _ hanswer
    obtain ⟨value, -, rfl⟩ := Option.map_eq_some_iff.1 hanswer
    trivial
  | vector query =>
    refine (query.yields_eval hstore hquery).bind ?_
    intro vector? hvector _ hanswer
    obtain ⟨vector, hmem, rfl⟩ := Option.map_eq_some_iff.1 hanswer
    exact hvector vector hmem
  | matrix query =>
    refine (query.yields_eval hstore hquery).bind ?_
    intro named? hnamed _ hanswer
    obtain ⟨named, hmem, rfl⟩ := Option.map_eq_some_iff.1 hanswer
    exact hnamed named hmem

end Evaluation

end Axial
