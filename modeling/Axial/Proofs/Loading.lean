import Mathlib.Data.String.Basic
import Axial.Proofs.StoreInvariant

/-!
# Which descriptions can be loaded

A store is filled from its description step by step, and each step has a check of its own: an axis
is compared with the axes before it, a vector with its axis, and the rows of a matrix with the first
of them and then with the two axes. All checks together come to this: the data fits the axes, and
the number of columns can be told from each matrix. It is taken from the first row, so a matrix
without rows is one without columns.

* `Rows.cells` : the values of rows, each with its type.
* `Rows.exists_toMatrix?_iff` : which rows make a matrix of a given shape.
* `Description.FitsAxes` : vectors and matrices have the shapes of their axes.
* `Store.entries?_ofDescription` : the axes of a store are those of its description.
* `Store.exists_load_iff` : which descriptions can be loaded.
* `Store.load_rowless_ne_ok` : a matrix without rows that is refused.
-/

namespace Axial

/-! ### Rows -/

namespace Rows

variable {α : Type} {rows : List (List α)}

/-- The first row tells the length of all, if there is one. -/
theorem width_eq_iff {n : Nat} :
    ((∀ row ∈ rows, row.length = width rows) ∧ width rows = n) ↔
      (∀ row ∈ rows, row.length = n) ∧ (rows = [] → n = 0) := by
  cases rows with
  | nil => simp [width, eq_comm]
  | cons row rows =>
    simp only [width, List.head?_cons, Option.map_some, Option.getD_some, List.forall_mem_cons,
      true_and, reduceCtorEq, false_implies, and_true]
    constructor
    · rintro ⟨h, rfl⟩
      exact ⟨rfl, h⟩
    · rintro ⟨rfl, h⟩
      exact ⟨h, rfl⟩

/-- Rows make a matrix of a shape if they are as many and as long as it says; without rows the
matrix has no columns. -/
theorem exists_toMatrix?_iff {rows : Rows} {nrows ncols : Nat} :
    (∃ m, rows.toMatrix? = some m ∧ m.nrows = nrows ∧ m.ncols = ncols) ↔
      rows.cells.length = nrows ∧ (∀ row ∈ rows.cells, row.length = ncols) ∧
        (rows.cells = [] → ncols = 0) := by
  obtain ⟨α, value, wrap, items, hwrap, hcells, hrows⟩ := rows.exists_matrixOf?
  simp only [hrows, hcells, matrixOf?_eq_some hwrap, List.length_map, List.forall_mem_map,
    List.map_eq_nil_iff, ← width_eq_iff]
  constructor
  · rintro ⟨_, ⟨hwidth, rfl⟩, rfl, rfl⟩
    exact ⟨rfl, hwidth, rfl⟩
  · rintro ⟨rfl, hwidth, rfl⟩
    exact ⟨_, ⟨hwidth, rfl⟩, rfl, rfl⟩

end Rows

/-! ### Names of a map -/

namespace Json

variable {α : Type} {name : String} {value : α} {pairs : List (String × α)}

theorem fst_of_mem_insertSorted {p : String × α} (h : p ∈ insertSorted name value pairs) :
    p.1 = name ∨ p ∈ pairs := by
  induction pairs with
  | nil =>
    cases List.mem_singleton.1 h
    exact .inl rfl
  | cons pair pairs ih =>
    rw [insertSorted] at h
    split_ifs at h
    · rcases List.mem_cons.1 h with rfl | h
      · exact .inl rfl
      · exact .inr h
    · rcases List.mem_cons.1 h with rfl | h
      · exact .inl rfl
      · exact .inr (List.mem_cons_of_mem _ h)
    · rcases List.mem_cons.1 h with rfl | h
      · exact .inr List.mem_cons_self
      · exact (ih h).imp_right (List.mem_cons_of_mem _)

theorem pairwise_insertSorted (h : pairs.Pairwise (·.1 < ·.1)) :
    (insertSorted name value pairs).Pairwise (·.1 < ·.1) := by
  induction pairs with
  | nil => exact List.pairwise_singleton ..
  | cons pair pairs ih =>
    obtain ⟨hpair, hpairs⟩ := List.pairwise_cons.1 h
    rw [insertSorted]
    split_ifs with hlt heq
    · refine List.pairwise_cons.2 ⟨fun p hp => ?_, h⟩
      rcases List.mem_cons.1 hp with rfl | hp
      · exact hlt
      · exact String.lt_trans hlt (hpair p hp)
    · exact List.pairwise_cons.2 ⟨fun p hp => heq ▸ hpair p hp, hpairs⟩
    · refine List.pairwise_cons.2 ⟨fun p hp => ?_, ih hpairs⟩
      rcases fst_of_mem_insertSorted hp with hname | hp
      · rw [hname]
        exact lt_of_le_of_ne (not_lt.1 hlt) (Ne.symm heq)
      · exact hpair p hp

/-- No name stands twice in a map. -/
theorem nodup_names_of_map? {read : Json → Option α} {document : Json}
    (h : document.map? read = some pairs) : (pairs.map Prod.fst).Nodup := by
  have hsorted : pairs.Pairwise (·.1 < ·.1) := by
    unfold map? at h
    split at h
    · obtain ⟨members, -, rfl⟩ := Option.map_eq_some_iff.1 h
      exact List.foldlRecOn members _ .nil fun _ hsorted _ _ => pairwise_insertSorted hsorted
    · cases h
  refine List.pairwise_map.2 (hsorted.imp fun hlt heq => ?_)
  exact String.lt_irrefl _ (heq ▸ hlt)

/-- The axes of a description have different names. -/
theorem nodup_axes_of_description? {document : Json} {d : Description}
    (h : document.description? = some d) : (d.axes.map Prod.fst).Nodup := by
  unfold description? at h
  split at h
  · next axes _ _ _ =>
    simp only [Option.bind_eq_bind, Option.bind_eq_some_iff, Option.pure_def,
      Option.some.injEq] at h
    obtain ⟨_, -, _, -, found, haxes, _, -, _, -, rfl⟩ := h
    cases axes with
    | none =>
      cases haxes
      exact List.nodup_nil
    | some document => exact nodup_names_of_map? haxes
  · cases h

end Json

/-! ### The stages of loading -/

/-- The vectors of a description, each with its axis and its name. -/
def Description.allVectors (d : Description) : List (String × String × Column) :=
  d.vectors.flatMap fun (axis, named) => named.map fun (name, values) => (axis, name, values)

namespace Store

/-- Add some axes one after another. -/
def addAxes (store : Store) (axes : List (String × List String)) : Except StoreError Store :=
  axes.foldlM (fun store (axis, entries) => store.after (.addAxis axis entries)) store

/-- Set the scalars and the vectors of a description. -/
def setData (store : Store) (d : Description) : Except StoreError Store :=
  d.allVectors.foldlM (fun store (axis, name, values) => store.after (.setVector axis name values))
    (d.scalars.foldl (fun store (name, value) => (store.update (.setScalar name value)).2) store)

/-- Add the matrices of some items one after another. -/
def addItems (store : Store) (items : List MatrixItem) : Except StoreError Store :=
  items.foldlM (fun store item => store.after (.addItem item)) store

variable {store next filled : Store} {d : Description} {axis : String} {entries : List String}
  {axes : List (String × List String)}

theorem ofDescription_eq_ok :
    ofDescription d = .ok store ↔
      ∃ filled next, (empty d.name).addAxes d.axes = .ok filled ∧ filled.setData d = .ok next ∧
        next.addItems d.matrices = .ok store := by
  constructor
  · intro h
    obtain ⟨filled, hfilled, h⟩ := bind_eq_ok.1 h
    obtain ⟨next, hnext, h⟩ := bind_eq_ok.1 h
    exact ⟨filled, next, hfilled, hnext, h⟩
  · rintro ⟨filled, next, hfilled, hnext, h⟩
    exact bind_eq_ok.2 ⟨filled, hfilled, bind_eq_ok.2 ⟨next, hnext, h⟩⟩

/-! ### Axes -/

theorem entries?_addAxis (h : store.after (.addAxis axis entries) = .ok next) (other : String) :
    next.entries? other = if other = axis then some entries else store.entries? other := by
  obtain ⟨-, -, rfl⟩ := addAxis_eq_ok.1 h
  exact Table.get?_insert ..

/-- Axes of different names can be added if the entries of each are distinct. -/
theorem exists_addAxes (hnames : (axes.map Prod.fst).Nodup) (hentries : ∀ p ∈ axes, p.2.Nodup)
    (hnew : ∀ p ∈ axes, store.entries? p.1 = none) :
    ∃ filled, store.addAxes axes = .ok filled := by
  induction axes generalizing store with
  | nil => exact ⟨store, rfl⟩
  | cons p axes ih =>
    obtain ⟨axis, entries⟩ := p
    obtain ⟨hname, hnames⟩ := List.nodup_cons.1 hnames
    obtain ⟨hdistinct, hentries⟩ := List.forall_mem_cons.1 hentries
    obtain ⟨hnone, hnew⟩ := List.forall_mem_cons.1 hnew
    obtain ⟨next, hnext⟩ : ∃ next, store.after (.addAxis axis entries) = .ok next :=
      ⟨_, addAxis_eq_ok.2 ⟨hnone, firstRepeated?_eq_none.2 ⟨hdistinct, fun _ _ => nofun⟩, rfl⟩⟩
    have hnew' : ∀ p ∈ axes, next.entries? p.1 = none := by
      intro p hp
      have hne : p.1 ≠ axis := fun heq => hname (List.mem_map.2 ⟨p, hp, heq⟩)
      rw [entries?_addAxis hnext, if_neg hne]
      exact hnew p hp
    obtain ⟨filled, hfilled⟩ := ih hnames hentries hnew'
    exact ⟨filled, bind_eq_ok.2 ⟨next, hnext, hfilled⟩⟩

theorem entries?_addAxes (h : store.addAxes axes = .ok filled) :
    filled.entries? axis = some entries ↔
      store.entries? axis = some entries ∨ (axis, entries) ∈ axes := by
  induction axes generalizing store with
  | nil =>
    cases h
    simp
  | cons p axes ih =>
    obtain ⟨next, hnext, h⟩ := bind_eq_ok.1 h
    have hnone := (addAxis_eq_ok.1 hnext).1
    rw [ih h, entries?_addAxis hnext, List.mem_cons, Prod.ext_iff]
    split
    · next heq =>
      subst heq
      simp [hnone, eq_comm]
    · next hne => simp [hne]

theorem entries?_addAxes_empty {name : String} (h : (empty name).addAxes axes = .ok filled) :
    filled.entries? axis = some entries ↔ (axis, entries) ∈ axes := by
  have hnone : (empty name).entries? axis = none := rfl
  rw [entries?_addAxes h, hnone]
  simp

/-! ### Vectors and matrices -/

theorem axes_setVector {name : String} {values : Column}
    (h : store.after (.setVector axis name values) = .ok next) : next.axes = store.axes := by
  obtain ⟨-, rfl⟩ := setVector_eq_ok.1 h
  rfl

theorem axes_addItem {item : MatrixItem} (h : store.after (.addItem item) = .ok next) :
    next.axes = store.axes := by
  obtain ⟨m, -, hset⟩ := addItem_eq_ok.1 h
  obtain ⟨-, -, rfl⟩ := setMatrix_eq_ok.1 hset
  rfl

theorem axisLength?_of_axes_eq (h : next.axes = store.axes) (axis : String) :
    next.axisLength? axis = store.axisLength? axis := by
  rw [axisLength?, axisLength?, entries?, entries?, h]

theorem axes_foldl_setScalar (scalars : List (String × Value)) :
    (scalars.foldl (fun store (name, value) => (store.update (.setScalar name value)).2)
      store).axes = store.axes :=
  List.foldlRecOn (motive := fun next : Store => next.axes = store.axes) scalars _ rfl
    fun _ h _ _ => h

theorem axes_setData (h : store.setData d = .ok next) : next.axes = store.axes :=
  of_foldlM_eq_ok (P := fun next : Store => next.axes = store.axes)
    (fun _ _ _ _ h hstep => (axes_setVector hstep).trans h) (axes_foldl_setScalar d.scalars) h

/-- Vectors can be set if they are as long as their axes. -/
theorem exists_setData_iff :
    (∃ next, store.setData d = .ok next) ↔
      ∀ vector ∈ d.allVectors, store.axisLength? vector.1 = some vector.2.2.length :=
  exists_foldlM_eq_ok (P := fun next : Store => next.axes = store.axes)
    (fun next vector h => by simp [setVector_eq_ok, axisLength?_of_axes_eq h])
    (fun _ _ _ h hstep => (axes_setVector hstep).trans h) (axes_foldl_setScalar d.scalars)

theorem exists_addItem_iff {item : MatrixItem} :
    (∃ next, store.after (.addItem item) = .ok next) ↔
      ∃ m, item.values.toMatrix? = some m ∧ store.axisLength? item.rows = some m.nrows ∧
        store.axisLength? item.columns = some m.ncols := by
  simp only [addItem_eq_ok, setMatrix_eq_ok]
  constructor
  · rintro ⟨_, m, hm, hrows, hcolumns, -⟩
    exact ⟨m, hm, hrows, hcolumns⟩
  · rintro ⟨m, hm, hrows, hcolumns⟩
    exact ⟨_, m, hm, hrows, hcolumns, rfl⟩

/-- Matrices can be added if they are as large as their axes. -/
theorem exists_addItems_iff {items : List MatrixItem} :
    (∃ next, store.addItems items = .ok next) ↔
      ∀ item ∈ items, ∃ m, item.values.toMatrix? = some m ∧
        store.axisLength? item.rows = some m.nrows ∧
          store.axisLength? item.columns = some m.ncols :=
  exists_foldlM_eq_ok (P := fun next : Store => next.axes = store.axes)
    (fun next item h => by simp only [exists_addItem_iff, axisLength?_of_axes_eq h])
    (fun _ _ _ h hstep => (axes_addItem hstep).trans h) rfl

end Store

/-! ### Whole descriptions -/

/-- The vectors and the matrices of a description have the shapes of their axes. -/
structure Description.FitsAxes (d : Description) : Prop where
  vectors : ∀ axis named, (axis, named) ∈ d.vectors → ∀ name values, (name, values) ∈ named →
    ∃ entries, (axis, entries) ∈ d.axes ∧ values.length = entries.length
  matrices : ∀ item ∈ d.matrices, ∃ rowEntries columnEntries,
    (item.rows, rowEntries) ∈ d.axes ∧ (item.columns, columnEntries) ∈ d.axes ∧
      item.values.cells.length = rowEntries.length ∧
        ∀ row ∈ item.values.cells, row.length = columnEntries.length

theorem Description.mem_allVectors {d : Description} {axis name : String} {values : Column} :
    (axis, name, values) ∈ d.allVectors ↔
      ∃ named, (axis, named) ∈ d.vectors ∧ (name, values) ∈ named := by
  simp only [allVectors, List.mem_flatMap, List.mem_map, Prod.exists, Prod.mk.injEq]
  constructor
  · rintro ⟨_, named, haxis, _, _, hname, rfl, rfl, rfl⟩
    exact ⟨named, haxis, hname⟩
  · rintro ⟨named, haxis, hname⟩
    exact ⟨axis, named, haxis, name, values, hname, rfl, rfl, rfl⟩

namespace Store

theorem axisLength?_addAxes {name axis : String} {axes : List (String × List String)}
    {filled : Store} {length : Nat} (h : (empty name).addAxes axes = .ok filled) :
    filled.axisLength? axis = some length ↔
      ∃ entries, (axis, entries) ∈ axes ∧ length = entries.length := by
  rw [axisLength?, Option.map_eq_some_iff]
  exact exists_congr fun entries => and_congr (entries?_addAxes_empty h) eq_comm

/-- A matrix is as large as its axes if its rows are as many and as long as these say, and the
number of its columns can be told from the rows. -/
theorem exists_toMatrix?_iff_fits {filled : Store} {d : Description} {item : MatrixItem}
    (h : (empty d.name).addAxes d.axes = .ok filled) :
    (∃ m, item.values.toMatrix? = some m ∧ filled.axisLength? item.rows = some m.nrows ∧
        filled.axisLength? item.columns = some m.ncols) ↔
      (∃ rowEntries columnEntries,
        (item.rows, rowEntries) ∈ d.axes ∧ (item.columns, columnEntries) ∈ d.axes ∧
          item.values.cells.length = rowEntries.length ∧
            ∀ row ∈ item.values.cells, row.length = columnEntries.length) ∧
        (item.values.cells = [] → (item.columns, []) ∈ d.axes) := by
  simp only [axisLength?_addAxes h]
  constructor
  · rintro ⟨m, hm, ⟨rowEntries, hrows, hnrows⟩, columnEntries, hcolumns, hncols⟩
    obtain ⟨hlength, hwidth, hnone⟩ := Rows.exists_toMatrix?_iff.1 ⟨m, hm, hnrows, hncols⟩
    refine ⟨⟨rowEntries, columnEntries, hrows, hcolumns, hlength, hwidth⟩, fun hnil => ?_⟩
    rwa [List.length_eq_zero_iff.1 (hnone hnil)] at hcolumns
  · rintro ⟨⟨rowEntries, columnEntries, hrows, hcolumns, hlength, hwidth⟩, hnone⟩
    have hnone' : item.values.cells = [] → columnEntries.length = 0 := by
      intro hnil
      -- an axis has one length
      have hlast := (axisLength?_addAxes h).2 ⟨_, hnone hnil, rfl⟩
      have hcolumns' := (axisLength?_addAxes h).2 ⟨_, hcolumns, rfl⟩
      exact Option.some.inj (hcolumns'.symm.trans hlast)
    obtain ⟨m, hm, hnrows, hncols⟩ := Rows.exists_toMatrix?_iff.2 ⟨hlength, hwidth, hnone'⟩
    exact ⟨m, hm, ⟨rowEntries, hrows, hnrows⟩, columnEntries, hcolumns, hncols⟩

/-- What the axes that were added say about the shapes of a description. -/
theorem fitsAxes_iff {filled : Store} {d : Description}
    (h : (empty d.name).addAxes d.axes = .ok filled) :
    (d.FitsAxes ∧ ∀ item ∈ d.matrices, item.values.cells = [] → (item.columns, []) ∈ d.axes) ↔
      (∀ vector ∈ d.allVectors, filled.axisLength? vector.1 = some vector.2.2.length) ∧
        ∀ item ∈ d.matrices, ∃ m, item.values.toMatrix? = some m ∧
          filled.axisLength? item.rows = some m.nrows ∧
            filled.axisLength? item.columns = some m.ncols := by
  simp only [exists_toMatrix?_iff_fits h, forall_and]
  simp only [axisLength?_addAxes h, Prod.forall, Description.mem_allVectors]
  constructor
  · rintro ⟨⟨hvectors, hmatrices⟩, hcolumns⟩
    refine ⟨?_, hmatrices, hcolumns⟩
    rintro axis name values ⟨named, haxis, hname⟩
    exact hvectors axis named haxis name values hname
  · rintro ⟨hvectors, hmatrices, hcolumns⟩
    refine ⟨⟨?_, hmatrices⟩, hcolumns⟩
    intro axis named haxis name values hname
    exact hvectors axis name values ⟨named, haxis, hname⟩

/-- After the axes are added, all checks are against these. -/
theorem exists_ofDescription_iff {filled : Store} {d : Description}
    (hfilled : (empty d.name).addAxes d.axes = .ok filled) :
    (∃ store, ofDescription d = .ok store) ↔
      (∀ vector ∈ d.allVectors, filled.axisLength? vector.1 = some vector.2.2.length) ∧
        ∀ item ∈ d.matrices, ∃ m, item.values.toMatrix? = some m ∧
          filled.axisLength? item.rows = some m.nrows ∧
            filled.axisLength? item.columns = some m.ncols := by
  have hitems : ∀ next, filled.setData d = .ok next →
      ((∃ store, next.addItems d.matrices = .ok store) ↔
        ∀ item ∈ d.matrices, ∃ m, item.values.toMatrix? = some m ∧
          filled.axisLength? item.rows = some m.nrows ∧
            filled.axisLength? item.columns = some m.ncols) := by
    intro next hnext
    simp only [exists_addItems_iff, axisLength?_of_axes_eq (axes_setData hnext)]
  rw [← exists_setData_iff]
  constructor
  · rintro ⟨store, h⟩
    obtain ⟨_, next, hfilled', hnext, hstore⟩ := ofDescription_eq_ok.1 h
    cases hfilled.symm.trans hfilled'
    exact ⟨⟨next, hnext⟩, (hitems next hnext).1 ⟨store, hstore⟩⟩
  · rintro ⟨⟨next, hnext⟩, h⟩
    obtain ⟨store, hstore⟩ := (hitems next hnext).2 h
    exact ⟨store, ofDescription_eq_ok.2 ⟨filled, next, hfilled, hnext, hstore⟩⟩

/-- **Descriptions that can be loaded.** A text that is the description of a store, with distinct
entries along every axis, is loaded if and only if its vectors and matrices have the shapes of their
axes, and no matrix without rows lies along a columns axis with entries: the number of columns is
taken from the first row, and without one it is taken to be zero. -/
theorem exists_load_iff {text : String} {d : Description}
    (hd : (Json.parse? text).bind Json.description? = some d)
    (hdistinct : ∀ axis ∈ d.axes, axis.2.Nodup) :
    (∃ store, load text = .ok store) ↔
      d.FitsAxes ∧ ∀ item ∈ d.matrices, item.values.cells = [] → (item.columns, []) ∈ d.axes := by
  obtain ⟨document, -, hdocument⟩ := Option.bind_eq_some_iff.1 hd
  -- the names of the axes are distinct, for these are the names of a map
  obtain ⟨filled, hfilled⟩ : ∃ filled, (empty d.name).addAxes d.axes = .ok filled :=
    exists_addAxes (Json.nodup_axes_of_description? hdocument) hdistinct fun _ _ => rfl
  calc (∃ store, load text = .ok store)
      ↔ ∃ store, ofDescription d = .ok store := by
        rw [load_of_description hd]
        exact exists_congr fun _ => mapError_eq_ok
    _ ↔ _ := exists_ofDescription_iff hfilled
    _ ↔ _ := (fitsAxes_iff hfilled).symm

/-- A vector along one axis, and a matrix along two. -/
theorem exists_load_of_fits : ∃ text d,
    (Json.parse? text).bind Json.description? = some d ∧
    d.axes = [("cell", ["x"]), ("gene", ["A", "B"])] ∧ (∀ axis ∈ d.axes, axis.2.Nodup) ∧
    d.allVectors = [("cell", "age", .int [4])] ∧
    d.matrices = [⟨"gene", "cell", "m", .int [[1], [2]]⟩] ∧
    ∃ store, load text = .ok store := by
  let text := "\x7b\"name\":\"d\",\"axes\":\x7b\"gene\":[\"A\",\"B\"],\"cell\":[\"x\"]\x7d," ++
    "\"vectors\":\x7b\"cell\":\x7b\"age\":[4]\x7d\x7d,\"matrices\":[" ++
    "\x7b\"rows\":\"gene\",\"columns\":\"cell\",\"name\":\"m\",\"values\":[[1],[2]]\x7d]\x7d"
  let d : Description := {
    name := "d"
    axes := [("cell", ["x"]), ("gene", ["A", "B"])]
    scalars := []
    vectors := [("cell", [("age", .int [4])])]
    matrices := [⟨"gene", "cell", "m", .int [[1], [2]]⟩] }
  have hd : (Json.parse? text).bind Json.description? = some d := by decide +kernel
  have hdistinct : ∀ axis ∈ d.axes, axis.2.Nodup := by decide
  have hfits : d.FitsAxes := by
    refine ⟨?_, ?_⟩
    · simp [d, Column.length]
    · simp [d, Rows.cells]
  have hrows : ∀ item ∈ d.matrices, item.values.cells = [] → (item.columns, []) ∈ d.axes := by
    decide
  exact ⟨text, d, hd, rfl, hdistinct, rfl, rfl, (exists_load_iff hd hdistinct).2 ⟨hfits, hrows⟩⟩

/-- A matrix without rows has the shape of its axes, whatever its columns axis, but it is refused
where this has entries. -/
theorem load_rowless_ne_ok : ∃ text d,
    text = "\x7b\"name\":\"d\",\"axes\":\x7b\"gene\":[],\"cell\":[\"x\"]\x7d,\"matrices\":[" ++
      "\x7b\"rows\":\"gene\",\"columns\":\"cell\",\"name\":\"m\",\"values\":[]\x7d]\x7d" ∧
    (Json.parse? text).bind Json.description? = some d ∧
    d.axes = [("cell", ["x"]), ("gene", [])] ∧
    (∀ axis ∈ d.axes, axis.2.Nodup) ∧
    d.matrices = [⟨"gene", "cell", "m", .bool []⟩] ∧ d.FitsAxes ∧
    load text = .error (.store ⟨"d", .matrixShape "m" (0, 0) (0, 1) "gene" "cell"⟩) ∧
    ∀ store, load text ≠ .ok store := by
  let text := "\x7b\"name\":\"d\",\"axes\":\x7b\"gene\":[],\"cell\":[\"x\"]\x7d,\"matrices\":[" ++
    "\x7b\"rows\":\"gene\",\"columns\":\"cell\",\"name\":\"m\",\"values\":[]\x7d]\x7d"
  let d : Description := {
    name := "d"
    axes := [("cell", ["x"]), ("gene", [])]
    scalars := []
    vectors := []
    matrices := [⟨"gene", "cell", "m", .bool []⟩] }
  have hd : (Json.parse? text).bind Json.description? = some d := by decide +kernel
  have hload : load text =
      .error (.store ⟨"d", .matrixShape "m" (0, 0) (0, 1) "gene" "cell"⟩) :=
    (load_of_description hd).trans rfl
  have hfits : d.FitsAxes := by
    refine ⟨?_, ?_⟩
    · simp [d]
    · simp [d, Rows.cells]
  refine ⟨text, d, rfl, hd, rfl, by decide, rfl, hfits, hload, fun store h => ?_⟩
  cases hload.symm.trans h

end Store

end Axial
