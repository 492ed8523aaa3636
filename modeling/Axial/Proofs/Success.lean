import Axial.Proofs.Outcome
import Axial.Evaluation.Query

/-!
# When evaluation succeeds

Each function of the evaluation has a lemma here, named for the function, that tells when it
succeeds and what it gives then. The lemmas are equivalences: they take a successful evaluation
apart into what was found on the way, and put an evaluation together from what can be found.

* `Store.nameVector_eq_ok`, `Store.follow_cons_eq_ok`, `AxisLookup.valueAt_eq_ok`,
  `FilteredAxis.indices_eq_ok` : the parts of lookups.
* `ScalarLookup.matrixEntry_eq_ok`, `VectorLookup.vector_eq_some`, `VectorLookup.slice_eq_some`,
  `MatrixLookup.eval_eq_some` : lookups.
* `Registry.reduceVector_eq_ok`, `Registry.reduceColumns_eq_ok` : reductions.
* `ScalarQuery.lookup_eq_some`, `VectorQuery.lookup_eq_some`, `MatrixQuery.eval_eq_some` : queries
  without a reduction.
* `ScalarQuery.reduced_eq_some`, `VectorQuery.reduced_eq_some` : queries with a reduction.
-/

namespace Axial

variable {store : Store} {registry : Registry} {eltwise : List Invocation}

theorem mapM_option_eq_some {ε : Type} {α β : Type} {a? : Option α} {f : α → Except ε β} {b : β} :
    a?.mapM f = .ok (some b) ↔ ∃ a, a? = some a ∧ f a = .ok b := by
  cases a? with
  | none => simp
  | some a => cases h : f a <;> simp [Option.mapM_some, h, Functor.map, Except.map]

theorem mapM_option_eq_none {ε : Type} {α β : Type} {a? : Option α} {f : α → Except ε β} :
    a?.mapM f = .ok none ↔ a? = none := by
  cases a? with
  | none => simp
  | some a => cases h : f a <;> simp [Option.mapM_some, h, Functor.map, Except.map]

theorem mapM_option_some_eq_ok {ε : Type} {α β : Type} {a : α} {f : α → Except ε β}
    {b? : Option β} : (some a).mapM f = .ok b? ↔ ∃ b, f a = .ok b ∧ b? = some b := by
  cases h : f a <;> simp [Option.mapM_some, h, Functor.map, Except.map, eq_comm]

/-! ### Axes and entries -/

namespace Store

variable {axis name : String}

@[simp] theorem require_eq_ok {α : Type} {cause : EvalCause} {a? : Option α} {a : α} :
    store.require cause a? = .ok a ↔ a? = some a := by
  cases a? <;> simp [require, refuse]

theorem toOption_require {α : Type} (store : Store) (cause : EvalCause) (item? : Option α) :
    (store.require cause item?).toOption = item? := by
  cases item? <;> rfl

theorem requireEntries_eq_ok {entries : List String} :
    store.requireEntries axis = .ok entries ↔ store.entries? axis = some entries :=
  require_eq_ok

theorem entryIndex_eq_ok {entry : AxisEntry} {index : Nat} :
    store.entryIndex entry = .ok index ↔
      ∃ entries, store.entries? entry.axis = some entries ∧
        entries.idxOf? entry.entry = some index := by
  simp only [entryIndex, bind_eq_ok, requireEntries_eq_ok, require_eq_ok]

theorem requireMatrix_eq_ok {rows columns : String} {m : Matrix} :
    store.requireMatrix rows columns name = .ok m ↔
      (∃ entries, store.entries? rows = some entries) ∧
        (∃ entries, store.entries? columns = some entries) ∧
          store.matrix? rows columns name = some (some m) := by
  simp only [requireMatrix, bind_eq_ok, requireEntries_eq_ok, require_eq_ok, ← exists_and_right]
  constructor
  · rintro ⟨rowEntries, hrows, columnEntries, hcolumns, _, hshown, rfl⟩
    exact ⟨rowEntries, hrows, columnEntries, hcolumns, hshown⟩
  · rintro ⟨rowEntries, hrows, columnEntries, hcolumns, hshown⟩
    exact ⟨rowEntries, hrows, columnEntries, hcolumns, _, hshown, rfl⟩

theorem nameVector_eq_ok {indices : List Nat} {values : Column} {vector : NamedVector} :
    store.nameVector axis indices values = .ok vector ↔
      ∃ entries, store.entries? axis = some entries ∧ (∀ i ∈ indices, i < entries.length) ∧
        (∀ i ∈ indices, i < values.length) ∧
          vector = ⟨axis, Column.pick entries indices, values.gather indices⟩ := by
  simp only [nameVector, bind_eq_ok, requireEntries_eq_ok, require_eq_ok,
    Column.pick?_eq_some_iff, Column.select?_eq_some_iff, pure_eq_ok, Except.ok.injEq]
  constructor
  · rintro ⟨entries, hentries, _, ⟨hrange, rfl⟩, _, ⟨hrange', rfl⟩, rfl⟩
    exact ⟨entries, hentries, hrange, hrange', rfl⟩
  · rintro ⟨entries, hentries, hrange, hrange', rfl⟩
    exact ⟨entries, hentries, _, ⟨hrange, rfl⟩, _, ⟨hrange', rfl⟩, rfl⟩

/-- A property is followed by looking up where the names that it holds stand on the axis that it
leads to. -/
theorem follow_cons_eq_ok {property next : String} {values last : Column} {rest : List String} :
    store.follow axis property values (next :: rest) = .ok last ↔
      ∃ names target entries found all, values = .string names ∧
        store.linkedAxis? property = some target ∧ store.entries? target = some entries ∧
          List.Forall₂ (fun name i => entries.idxOf? name = some i) names found ∧
            store.property target next = .ok all ∧ (∀ i ∈ found, i < all.length) ∧
              store.follow target next (all.gather found) rest = .ok last := by
  cases values with
  | string names =>
    simp only [follow, bind_eq_ok, require_eq_ok, requireEntries_eq_ok, mapM_eq_ok,
      Column.select?_eq_some_iff, Column.string.injEq]
    constructor
    · rintro ⟨target, htarget, entries, hentries, found, hfound, all, hall, _, ⟨hrange, rfl⟩, h⟩
      exact ⟨_, target, entries, found, all, rfl, htarget, hentries, hfound, hall, hrange, h⟩
    · rintro ⟨_, target, entries, found, all, rfl, htarget, hentries, hfound, hall, hrange, h⟩
      exact ⟨target, htarget, entries, hentries, found, hfound, all, hall, _, ⟨hrange, rfl⟩, h⟩
  | _ =>
    constructor
    · nofun
    · rintro ⟨names, _, _, _, _, h, -⟩
      cases h

end Store

/-! ### Properties and filters -/

theorem AxisLookup.valueAt_eq_ok {lookup : AxisLookup} {entry : AxisEntry} {value : Value} :
    lookup.valueAt store entry = .ok value ↔
      ∃ index all last, store.entryIndex entry = .ok index ∧
        store.property entry.axis lookup.property.first = .ok all ∧ index < all.length ∧
          lookup.valuesFrom store entry.axis (all.gather [index]) = .ok last ∧
            last.get? 0 = some value := by
  simp only [valueAt, bind_eq_ok, Store.require_eq_ok, Column.select?_eq_some_iff,
    List.forall_mem_singleton]
  constructor
  · rintro ⟨index, hindex, all, hall, _, ⟨hrange, rfl⟩, last, hlast, hvalue⟩
    exact ⟨index, all, last, hindex, hall, hrange, hlast, hvalue⟩
  · rintro ⟨index, all, last, hindex, hall, hrange, hlast, hvalue⟩
    exact ⟨index, hindex, all, hall, _, ⟨hrange, rfl⟩, last, hlast, hvalue⟩

theorem AxisFilter.bits_eq_ok {filter : AxisFilter} {axis : String} {bits : List Bool} :
    filter.bits store axis = .ok bits ↔ filter.lookup.values store axis = .ok (.bool bits) := by
  rw [AxisFilter.bits, bind_eq_ok]
  constructor
  · rintro ⟨values, hvalues, h⟩
    split at h
    · cases h
      exact hvalues
    · cases h
  · intro h
    exact ⟨_, h, rfl⟩

namespace FilteredAxis

variable {filtered : FilteredAxis}

theorem mask_eq_ok {mask : List Bool} :
    filtered.mask store = .ok mask ↔
      ∃ entries, store.entries? filtered.axis = some entries ∧
        filtered.filters.foldlM (fun mask filter => do
          let bits ← filter.bits store filtered.axis
          return List.zipWith filter.combinator.combine mask bits) (entries.map fun _ => true) =
            .ok mask := by
  simp only [FilteredAxis.mask, bind_eq_ok, Store.requireEntries_eq_ok]

theorem indices_eq_ok {indices? : Option (List Nat)} :
    filtered.indices store = .ok indices? ↔
      ∃ mask, filtered.mask store = .ok mask ∧
        (filtered.filters ≠ [] ∧ true ∉ mask ∧ indices? = none ∨
          (filtered.filters = [] ∨ true ∈ mask) ∧ indices? = some (keptIndices mask)) := by
  rw [indices, bind_eq_ok]
  refine exists_congr fun mask => and_congr_right fun _ => ?_
  rw [pure_eq_ok, Except.ok.injEq]
  split
  · next h => simp [h.1, h.2, eq_comm]
  · next h =>
    have hkept : filtered.filters = [] ∨ true ∈ mask := by
      rw [not_and, Classical.not_not] at h
      exact Classical.or_iff_not_imp_left.2 h
    rcases hkept with hnil | hmem
    · simp [hnil, eq_comm]
    · simp [hmem, eq_comm]

end FilteredAxis

/-! ### Lookups -/

theorem ScalarLookup.matrixEntry_eq_ok {rows columns : AxisEntry} {name : String}
    {value : Value} :
    (ScalarLookup.matrixEntry rows columns name).eval store = .ok value ↔
      ∃ row column m, store.entryIndex rows = .ok row ∧ store.entryIndex columns = .ok column ∧
        store.requireMatrix rows.axis columns.axis name = .ok m ∧
          m.get? row column = some value := by
  simp only [eval, bind_eq_ok, Store.require_eq_ok]
  constructor
  · rintro ⟨row, hrow, column, hcolumn, m, hm, hvalue⟩
    exact ⟨row, column, m, hrow, hcolumn, hm, hvalue⟩
  · rintro ⟨row, column, m, hrow, hcolumn, hm, hvalue⟩
    exact ⟨row, hrow, column, hcolumn, m, hm, hvalue⟩

namespace VectorLookup

variable {axis : FilteredAxis} {property : AxisLookup} {entry : AxisEntry} {name : String}
  {vector : NamedVector}

theorem vector_eq_none :
    (VectorLookup.vector axis property).eval store = .ok none ↔ axis.indices store = .ok none := by
  rw [eval, bind_eq_ok]
  constructor
  · rintro ⟨indices?, hindices, h⟩
    cases indices? with
    | none => exact hindices
    | some indices =>
      obtain ⟨values, -, h⟩ := bind_eq_ok.1 h
      obtain ⟨vector, -, h⟩ := bind_eq_ok.1 h
      cases h
  · intro h
    exact ⟨none, h, rfl⟩

theorem vector_eq_some :
    (VectorLookup.vector axis property).eval store = .ok (some vector) ↔
      ∃ indices values, axis.indices store = .ok (some indices) ∧
        property.values store axis.axis = .ok values ∧
          store.nameVector axis.axis indices values = .ok vector := by
  rw [eval, bind_eq_ok]
  constructor
  · rintro ⟨indices?, hindices, h⟩
    cases indices? with
    | none => cases h
    | some indices =>
      obtain ⟨values, hvalues, h⟩ := bind_eq_ok.1 h
      obtain ⟨vector, hvector, h⟩ := bind_eq_ok.1 h
      cases h
      exact ⟨indices, values, hindices, hvalues, hvector⟩
  · rintro ⟨indices, values, hindices, hvalues, hvector⟩
    refine ⟨some indices, hindices, ?_⟩
    simp only [hvalues, hvector, ok_bind, pure_eq_ok]

theorem slice_eq_none :
    (VectorLookup.matrixSlice axis entry name).eval store = .ok none ↔
      axis.indices store = .ok none := by
  rw [eval, bind_eq_ok]
  constructor
  · rintro ⟨indices?, hindices, h⟩
    cases indices? with
    | none => exact hindices
    | some indices =>
      simp only [bind_eq_ok, pure_eq_ok, Except.ok.injEq, reduceCtorEq, and_false,
        exists_false] at h
  · intro h
    exact ⟨none, h, rfl⟩

theorem slice_eq_some :
    (VectorLookup.matrixSlice axis entry name).eval store = .ok (some vector) ↔
      ∃ indices column m values, axis.indices store = .ok (some indices) ∧
        store.entryIndex entry = .ok column ∧
          store.requireMatrix axis.axis entry.axis name = .ok m ∧
            m.column? column = some values ∧
              store.nameVector axis.axis indices values = .ok vector := by
  rw [eval, bind_eq_ok]
  constructor
  · rintro ⟨indices?, hindices, h⟩
    cases indices? with
    | none => cases h
    | some indices =>
      obtain ⟨column, hcolumn, h⟩ := bind_eq_ok.1 h
      obtain ⟨m, hm, h⟩ := bind_eq_ok.1 h
      obtain ⟨values, hvalues, h⟩ := bind_eq_ok.1 h
      obtain ⟨vector, hvector, h⟩ := bind_eq_ok.1 h
      cases h
      exact ⟨indices, column, m, values, hindices, hcolumn, hm, Store.require_eq_ok.1 hvalues,
        hvector⟩
  · rintro ⟨indices, column, m, values, hindices, hcolumn, hm, hvalues, hvector⟩
    refine ⟨some indices, hindices, ?_⟩
    simp only [hcolumn, hm, hvalues, Store.require, hvector, ok_bind, pure_eq_ok]

end VectorLookup

theorem MatrixLookup.eval_eq_some {lookup : MatrixLookup} {named : NamedMatrix} :
    lookup.eval store = .ok (some named) ↔
      ∃ rows columns m rowEntries columnEntries picked,
        lookup.rows.indices store = .ok (some rows) ∧
          lookup.columns.indices store = .ok (some columns) ∧
            store.matrix? lookup.rows.axis lookup.columns.axis lookup.name = some (some m) ∧
              (store.entries? lookup.rows.axis = some rowEntries ∧
                ∀ i ∈ rows, i < rowEntries.length) ∧
                (store.entries? lookup.columns.axis = some columnEntries ∧
                  ∀ i ∈ columns, i < columnEntries.length) ∧
                  m.select? rows columns = some picked ∧
                    named = ⟨lookup.rows.axis, lookup.columns.axis, Column.pick rowEntries rows,
                      Column.pick columnEntries columns, picked⟩ := by
  rw [eval, bind_eq_ok]
  constructor
  · rintro ⟨rows?, hrows, h⟩
    cases rows? with
    | none => cases h
    | some rows =>
      obtain ⟨columns?, hcolumns, h⟩ := bind_eq_ok.1 h
      cases columns? with
      | none => cases h
      | some columns =>
        simp only [bind_eq_ok, Store.requireMatrix_eq_ok, Store.requireEntries_eq_ok,
          Store.require_eq_ok, Column.pick?_eq_some_iff, pure_eq_ok, Except.ok.injEq,
          Option.some.injEq] at h
        obtain ⟨m, ⟨-, -, hm⟩, rowEntries, hrowEntries, columnEntries, hcolumnEntries, _,
          ⟨hrange, rfl⟩, _, ⟨hrange', rfl⟩, picked, hpicked, rfl⟩ := h
        exact ⟨rows, columns, m, rowEntries, columnEntries, picked, hrows, hcolumns, hm,
          ⟨hrowEntries, hrange⟩, ⟨hcolumnEntries, hrange'⟩, hpicked, rfl⟩
  · rintro ⟨rows, columns, m, rowEntries, columnEntries, picked, hrows, hcolumns, hm,
      ⟨hrowEntries, hrange⟩, ⟨hcolumnEntries, hrange'⟩, hpicked, rfl⟩
    refine ⟨some rows, hrows, bind_eq_ok.2 ⟨some columns, hcolumns, ?_⟩⟩
    simp only [bind_eq_ok, Store.requireMatrix_eq_ok, Store.requireEntries_eq_ok,
      Store.require_eq_ok, Column.pick?_eq_some_iff, pure_eq_ok, Except.ok.injEq,
      Option.some.injEq]
    exact ⟨m, ⟨⟨_, hrowEntries⟩, ⟨_, hcolumnEntries⟩, hm⟩, rowEntries, hrowEntries, columnEntries,
      hcolumnEntries, _, ⟨hrange, rfl⟩, _, ⟨hrange', rfl⟩, picked, hpicked, rfl⟩

/-! ### Operations -/

namespace Registry

theorem applyToColumn_cons_eq_ok {first : Invocation} {values result : Column} :
    registry.applyToColumn store (first :: eltwise) values = .ok result ↔
      ∃ numbers f, values.toFloats? = some numbers ∧
        registry.pipeline store (first :: eltwise) = .ok f ∧ result = .float (numbers.map f) := by
  simp only [applyToColumn, Store.numbers, bind_eq_ok, Store.require_eq_ok, pure_eq_ok,
    Except.ok.injEq]
  constructor
  · rintro ⟨numbers, hnumbers, f, hf, rfl⟩
    exact ⟨numbers, f, hnumbers, hf, rfl⟩
  · rintro ⟨numbers, f, hnumbers, hf, rfl⟩
    exact ⟨numbers, hnumbers, f, hf, rfl⟩

theorem applyToVector_eq_ok {vector result : NamedVector} :
    registry.applyToVector store eltwise vector = .ok result ↔
      ∃ values, registry.applyToColumn store eltwise vector.values = .ok values ∧
        result = { vector with values := values } := by
  simp only [applyToVector, bind_eq_ok, pure_eq_ok, Except.ok.injEq]
  exact exists_congr fun _ => and_congr_right fun _ => eq_comm

theorem applyToMatrix_eq_ok {named result : NamedMatrix} :
    registry.applyToMatrix store eltwise named = .ok result ↔
      ∃ values, registry.applyToColumn store eltwise named.matrix.values = .ok values ∧
        result = { named with matrix := { named.matrix with values := values } } := by
  simp only [applyToMatrix, bind_eq_ok, pure_eq_ok, Except.ok.injEq]
  exact exists_congr fun _ => and_congr_right fun _ => eq_comm

theorem reduceVector_eq_ok {reduction : Invocation} {vector : NamedVector} {value : Value} :
    registry.reduceVector store reduction vector = .ok value ↔
      ∃ numbers x, vector.values.toFloats? = some numbers ∧
        registry.reduce store reduction numbers = .ok x ∧ value = .float x := by
  simp only [reduceVector, Store.numbers, bind_eq_ok, Store.require_eq_ok, pure_eq_ok,
    Except.ok.injEq]
  constructor
  · rintro ⟨numbers, hnumbers, x, hx, rfl⟩
    exact ⟨numbers, x, hnumbers, hx, rfl⟩
  · rintro ⟨numbers, x, hnumbers, hx, rfl⟩
    exact ⟨numbers, hnumbers, x, hx, rfl⟩

/-- Each column of a matrix is cut out of all its values and reduced by itself. -/
theorem reduceColumns_eq_ok {reduction : Invocation} {named : NamedMatrix}
    {vector : NamedVector} :
    registry.reduceColumns store reduction named = .ok vector ↔
      ∃ numbers reduced, named.matrix.values.toFloats? = some numbers ∧
        (List.range named.matrix.ncols).mapM (fun column => do
          let slice ← store.require .outOfRange (Column.slice? numbers
            (column * named.matrix.nrows) ((column + 1) * named.matrix.nrows))
          registry.reduce store reduction slice) = .ok reduced ∧
        vector = ⟨named.columnsAxis, named.columnEntries, .float reduced⟩ := by
  simp only [reduceColumns, Store.numbers, bind_eq_ok, Store.require_eq_ok, pure_eq_ok,
    Except.ok.injEq]
  constructor
  · rintro ⟨numbers, hnumbers, reduced, hreduced, rfl⟩
    exact ⟨numbers, reduced, hnumbers, hreduced, rfl⟩
  · rintro ⟨numbers, reduced, hnumbers, hreduced, rfl⟩
    exact ⟨numbers, hnumbers, reduced, hreduced, rfl⟩

end Registry

/-! ### Queries -/

theorem ScalarQuery.lookup_eq_some {source : ScalarLookup} {value : Value} :
    (ScalarQuery.lookup source eltwise).eval store registry = .ok (some value) ↔
      ∃ looked, source.eval store = .ok looked ∧
        registry.applyToValue store eltwise looked = .ok value := by
  simp only [eval, bind_eq_ok, pure_eq_ok, Except.ok.injEq, Option.some.injEq, exists_eq_right]

theorem VectorQuery.lookup_eq_none {source : VectorLookup} :
    (VectorQuery.lookup source eltwise).eval store registry = .ok none ↔
      source.eval store = .ok none := by
  simp only [eval, bind_eq_ok, mapM_option_eq_none, exists_eq_right]

theorem VectorQuery.lookup_eq_some {source : VectorLookup} {vector : NamedVector} :
    (VectorQuery.lookup source eltwise).eval store registry = .ok (some vector) ↔
      ∃ looked, source.eval store = .ok (some looked) ∧
        registry.applyToVector store eltwise looked = .ok vector := by
  simp only [eval, bind_eq_ok, mapM_option_eq_some]
  constructor
  · rintro ⟨_, hlooked, looked, rfl, h⟩
    exact ⟨looked, hlooked, h⟩
  · rintro ⟨looked, hlooked, h⟩
    exact ⟨_, hlooked, looked, rfl, h⟩

theorem MatrixQuery.eval_eq_some {query : MatrixQuery} {named : NamedMatrix} :
    query.eval store registry = .ok (some named) ↔
      ∃ looked, query.lookup.eval store = .ok (some looked) ∧
        registry.applyToMatrix store query.eltwise looked = .ok named := by
  simp only [eval, bind_eq_ok, mapM_option_eq_some]
  constructor
  · rintro ⟨_, hlooked, looked, rfl, h⟩
    exact ⟨looked, hlooked, h⟩
  · rintro ⟨looked, hlooked, h⟩
    exact ⟨_, hlooked, looked, rfl, h⟩

theorem VectorQuery.reduced_eq_some {matrix : MatrixQuery} {reduction : Invocation}
    {vector : NamedVector} :
    (VectorQuery.reduced matrix reduction eltwise).eval store registry = .ok (some vector) ↔
      ∃ named between, matrix.eval store registry = .ok (some named) ∧
        registry.reduceColumns store reduction named = .ok between ∧
          registry.applyToVector store eltwise between = .ok vector := by
  simp only [eval, bind_eq_ok, mapM_option_eq_some]
  constructor
  · rintro ⟨_, hnamed, named, rfl, between, hbetween, h⟩
    exact ⟨named, between, hnamed, hbetween, h⟩
  · rintro ⟨named, between, hnamed, hbetween, h⟩
    exact ⟨_, hnamed, named, rfl, between, hbetween, h⟩

theorem ScalarQuery.reduced_eq_some {vector : VectorQuery} {reduction : Invocation}
    {value : Value} :
    (ScalarQuery.reduced vector reduction eltwise).eval store registry = .ok (some value) ↔
      ∃ named between, vector.eval store registry = .ok (some named) ∧
        registry.reduceVector store reduction named = .ok between ∧
          registry.applyToValue store eltwise between = .ok value := by
  simp only [eval, bind_eq_ok, mapM_option_eq_some]
  constructor
  · rintro ⟨_, hnamed, named, rfl, between, hbetween, h⟩
    exact ⟨named, between, hnamed, hbetween, h⟩
  · rintro ⟨named, between, hnamed, hbetween, h⟩
    exact ⟨_, hnamed, named, rfl, between, hbetween, h⟩

end Axial
