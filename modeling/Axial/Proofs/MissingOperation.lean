import Axial.Proofs.Chains
import Axial.Proofs.ExchangedAxes

/-!
# Operations that a registry lacks

A query may be evaluated with another registry than the one it was parsed with, and this may lack
operations that the query names. Element-wise operations are looked up once for all values, and the
reduction of a vector once, so they are missed even where there is no value. The reduction of a
matrix is looked up for each column by itself: without columns nobody asks for it.

* `Query.Needs` : the operations of a query that an answer to it depends on.
* `Registry.isRegistered_of_applyToColumn`, `Registry.isRegistered_of_reduceColumns` : the steps of
  the evaluation find what they ask for.
* `Query.isRegistered_of_eval` : an answer comes with all that the query needs.
* `Query.exists_keepsNothing` : there is no answer only where some filters keep no entry.
* `Query.eval_of_missing` : a query that needs a missing operation is never answered.
-/

namespace Axial

/-! ### What a query needs -/

/-- The columns of a matrix are all entries of an axis that has none. -/
def MatrixQuery.HasNoColumns (query : MatrixQuery) (store : Store) : Prop :=
  query.lookup.columns.filters = [] ∧ store.entries? query.lookup.columns.axis = some []

/-- The element-wise operations of a matrix query. -/
def MatrixQuery.Needs (query : MatrixQuery) (kind : OperationKind) (operation : Invocation) :
    Prop :=
  kind = .eltwise ∧ operation ∈ query.eltwise

/-- The operations of a vector query, but for the reduction of a matrix without columns. -/
def VectorQuery.Needs (store : Store) (kind : OperationKind) (operation : Invocation) :
    VectorQuery → Prop
  | lookup _ eltwise => kind = .eltwise ∧ operation ∈ eltwise
  | reduced matrix reduction eltwise =>
    matrix.Needs kind operation ∨
      (kind = .reduction ∧ operation = reduction ∧ ¬ matrix.HasNoColumns store) ∨
        (kind = .eltwise ∧ operation ∈ eltwise)

/-- The operations of a scalar query, but for the reduction of a matrix without columns. -/
def ScalarQuery.Needs (store : Store) (kind : OperationKind) (operation : Invocation) :
    ScalarQuery → Prop
  | lookup _ eltwise => kind = .eltwise ∧ operation ∈ eltwise
  | reduced vector reduction eltwise =>
    vector.Needs store kind operation ∨ (kind = .reduction ∧ operation = reduction) ∨
      (kind = .eltwise ∧ operation ∈ eltwise)

/-- The operations of a query, but for the reduction of a matrix without columns. -/
def Query.Needs (store : Store) (kind : OperationKind) (operation : Invocation) : Query → Prop
  | scalar query => query.Needs store kind operation
  | vector query => query.Needs store kind operation
  | matrix query => query.Needs kind operation

/-! ### The steps of the evaluation -/

namespace Registry

variable {registry : Registry} {store : Store} {eltwise : List Invocation}
  {operation reduction : Invocation}

theorem not_isRegistered_empty {kind : OperationKind} : ¬ operation.IsRegistered .empty kind := by
  cases kind with
  | eltwise => exact Bool.false_ne_true
  | reduction => exact Bool.false_ne_true

theorem isRegistered_of_eltwise? {f : Binary64 → Binary64}
    (h : registry.eltwise? operation.name operation.parameters = some f) :
    operation.IsRegistered registry .eltwise := by
  have hsome := Option.isSome_of_eq_some h
  simpa [Invocation.IsRegistered, signature?, signatures, eltwise?] using hsome

theorem isRegistered_of_reduce {numbers : List Binary64} {x : Binary64}
    (h : registry.reduce store reduction numbers = .ok x) :
    reduction.IsRegistered registry .reduction := by
  obtain ⟨f, hf, -⟩ := bind_eq_ok.1 h
  have hsome := Option.isSome_of_eq_some (Store.require_eq_ok.1 hf)
  simpa [Invocation.IsRegistered, signature?, signatures, reduction?] using hsome

/-- Every stage of a pipeline is looked up, whatever it is applied to. -/
theorem isRegistered_of_pipeline {f : Binary64 → Binary64}
    (h : registry.pipeline store eltwise = .ok f) :
    ∀ operation ∈ eltwise, operation.IsRegistered registry .eltwise := by
  unfold pipeline at h
  -- the stages before those that are left have been looked up already
  generalize id = before at h
  induction eltwise generalizing before with
  | nil => exact nofun
  | cons first eltwise ih =>
    obtain ⟨next, hnext, h⟩ := bind_eq_ok.1 h
    obtain ⟨g, hg, -⟩ := bind_eq_ok.1 hnext
    exact List.forall_mem_cons.2 ⟨isRegistered_of_eltwise? (Store.require_eq_ok.1 hg), ih next h⟩

theorem isRegistered_of_applyToColumn {values result : Column}
    (h : registry.applyToColumn store eltwise values = .ok result) :
    ∀ operation ∈ eltwise, operation.IsRegistered registry .eltwise := by
  cases eltwise with
  | nil => exact nofun
  | cons first eltwise =>
    obtain ⟨_, f, -, hf, -⟩ := applyToColumn_cons_eq_ok.1 h
    exact isRegistered_of_pipeline hf

theorem isRegistered_of_applyToValue {value result : Value}
    (h : registry.applyToValue store eltwise value = .ok result) :
    ∀ operation ∈ eltwise, operation.IsRegistered registry .eltwise := by
  obtain ⟨results, hresults⟩ := exists_applyToColumn_of_applyToValue h
  exact isRegistered_of_applyToColumn hresults

theorem isRegistered_of_applyToVector {vector result : NamedVector}
    (h : registry.applyToVector store eltwise vector = .ok result) :
    ∀ operation ∈ eltwise, operation.IsRegistered registry .eltwise := by
  obtain ⟨values, hvalues, -⟩ := applyToVector_eq_ok.1 h
  exact isRegistered_of_applyToColumn hvalues

theorem isRegistered_of_applyToMatrix {named result : NamedMatrix}
    (h : registry.applyToMatrix store eltwise named = .ok result) :
    ∀ operation ∈ eltwise, operation.IsRegistered registry .eltwise := by
  obtain ⟨values, hvalues, -⟩ := applyToMatrix_eq_ok.1 h
  exact isRegistered_of_applyToColumn hvalues

theorem isRegistered_of_reduceVector {vector : NamedVector} {value : Value}
    (h : registry.reduceVector store reduction vector = .ok value) :
    reduction.IsRegistered registry .reduction := by
  obtain ⟨_, x, -, hx, -⟩ := reduceVector_eq_ok.1 h
  exact isRegistered_of_reduce hx

/-- The first column of a matrix has its reduction looked up. -/
theorem isRegistered_of_reduceColumns {named : NamedMatrix} {vector : NamedVector}
    (h : registry.reduceColumns store reduction named = .ok vector)
    (hcolumns : named.matrix.ncols ≠ 0) : reduction.IsRegistered registry .reduction := by
  obtain ⟨_, reduced, -, hreduced, -⟩ := reduceColumns_eq_ok.1 h
  have hfirst : (List.range named.matrix.ncols)[0]? = some 0 := by
    rw [List.getElem?_range (Nat.pos_of_ne_zero hcolumns)]
  obtain ⟨x, -, hx⟩ := exists_getElem?_of_mapM_eq_ok hreduced hfirst
  obtain ⟨slice, -, hx⟩ := bind_eq_ok.1 hx
  exact isRegistered_of_reduce hx

end Registry

/-! ### Lookups -/

/-- The axes of a vector that filters may mask. -/
def VectorLookup.filteredAxes : VectorLookup → List FilteredAxis
  | vector axis _ => [axis]
  | matrixSlice axis _ _ => [axis]

/-- The axes of a matrix that filters may mask. -/
def MatrixLookup.filteredAxes (lookup : MatrixLookup) : List FilteredAxis :=
  [lookup.rows, lookup.columns]

/-- There are filters, which can be evaluated and keep no entry of their axis. -/
def FilteredAxis.KeepsNothing (filtered : FilteredAxis) (store : Store) : Prop :=
  filtered.filters ≠ [] ∧ ∃ mask, filtered.mask store = .ok mask ∧ true ∉ mask

section Lookups

variable {store : Store}

theorem FilteredAxis.keepsNothing_of_indices {filtered : FilteredAxis}
    (h : filtered.indices store = .ok none) : filtered.KeepsNothing store := by
  obtain ⟨mask, hmask, ⟨hfilters, hkept, -⟩ | ⟨-, hindices⟩⟩ := indices_eq_ok.1 h
  · exact ⟨hfilters, mask, hmask, hkept⟩
  · cases hindices

theorem VectorLookup.exists_keepsNothing {lookup : VectorLookup}
    (h : lookup.eval store = .ok none) :
    ∃ filtered ∈ lookup.filteredAxes, filtered.KeepsNothing store := by
  cases lookup with
  | vector axis property =>
    exact ⟨axis, List.mem_singleton_self _,
      FilteredAxis.keepsNothing_of_indices (vector_eq_none.1 h)⟩
  | matrixSlice axis entry name =>
    exact ⟨axis, List.mem_singleton_self _,
      FilteredAxis.keepsNothing_of_indices (slice_eq_none.1 h)⟩

theorem MatrixLookup.exists_keepsNothing {lookup : MatrixLookup}
    (h : lookup.eval store = .ok none) :
    ∃ filtered ∈ lookup.filteredAxes, filtered.KeepsNothing store := by
  rcases eval_eq_none h with hrows | hcolumns
  · exact ⟨lookup.rows, by simp [filteredAxes], FilteredAxis.keepsNothing_of_indices hrows⟩
  · exact ⟨lookup.columns, by simp [filteredAxes], FilteredAxis.keepsNothing_of_indices hcolumns⟩

theorem keptIndices_ne_nil {mask : List Bool} (h : true ∈ mask) : keptIndices mask ≠ [] := by
  obtain ⟨i, hi⟩ := List.getElem?_of_mem h
  refine List.ne_nil_of_mem (a := i) (List.mem_map.2 ⟨(true, i), ?_, rfl⟩)
  exact List.mem_filter.2 ⟨List.mk_mem_zipIdx_iff_getElem?.2 hi, rfl⟩

/-- A matrix that is found has no columns only if its columns axis is not filtered and has no
entries. -/
theorem MatrixLookup.columns_of_ncols_eq_zero {lookup : MatrixLookup} {named : NamedMatrix}
    (h : lookup.eval store = .ok (some named)) (hncols : named.matrix.ncols = 0) :
    lookup.columns.filters = [] ∧ store.entries? lookup.columns.axis = some [] := by
  obtain ⟨rows, columns, m, _, entries, picked, -, hcolumns, -, -, ⟨hentries, -⟩, hpicked, rfl⟩ :=
    eval_eq_some.1 h
  obtain rfl : columns = [] := by
    obtain ⟨values, -, rfl⟩ := Option.map_eq_some_iff.1 hpicked
    exact List.length_eq_zero_iff.1 hncols
  obtain ⟨mask, hmask, ⟨-, -, hkept⟩ | ⟨hfilters, hkept⟩⟩ := FilteredAxis.indices_eq_ok.1 hcolumns
  · cases hkept
  · have hnil : lookup.columns.filters = [] :=
      hfilters.resolve_right fun hmem => keptIndices_ne_nil hmem (Option.some.inj hkept).symm
    have hall := FilteredAxis.indices_unfiltered hentries
    rw [← hnil, hcolumns, Except.ok.injEq, Option.some.injEq, eq_comm, List.range_eq_nil,
      List.length_eq_zero_iff] at hall
    exact ⟨hnil, hall ▸ hentries⟩

end Lookups

/-! ### Queries -/

/-- The axes of a vector query that filters may mask. -/
def VectorQuery.filteredAxes : VectorQuery → List FilteredAxis
  | lookup source _ => source.filteredAxes
  | reduced matrix _ _ => matrix.lookup.filteredAxes

/-- The axes of a scalar query that filters may mask. -/
def ScalarQuery.filteredAxes : ScalarQuery → List FilteredAxis
  | lookup _ _ => []
  | reduced vector _ _ => vector.filteredAxes

/-- The axes of a query that filters may mask. -/
def Query.filteredAxes : Query → List FilteredAxis
  | scalar query => query.filteredAxes
  | vector query => query.filteredAxes
  | matrix query => query.lookup.filteredAxes

section Queries

variable {store : Store} {registry : Registry} {kind : OperationKind} {operation : Invocation}

theorem MatrixQuery.isRegistered_of_eval {query : MatrixQuery} {named : NamedMatrix}
    (h : query.eval store registry = .ok (some named)) (hneeds : query.Needs kind operation) :
    operation.IsRegistered registry kind := by
  obtain ⟨looked, -, happly⟩ := eval_eq_some.1 h
  obtain ⟨rfl, hmem⟩ := hneeds
  exact Registry.isRegistered_of_applyToMatrix happly operation hmem

/-- Element-wise operations add no columns and take none away. -/
theorem MatrixQuery.hasNoColumns_of_eval {query : MatrixQuery} {named : NamedMatrix}
    (h : query.eval store registry = .ok (some named)) (hncols : named.matrix.ncols = 0) :
    query.HasNoColumns store := by
  obtain ⟨looked, hlooked, happly⟩ := eval_eq_some.1 h
  obtain ⟨values, -, rfl⟩ := Registry.applyToMatrix_eq_ok.1 happly
  exact MatrixLookup.columns_of_ncols_eq_zero hlooked hncols

theorem VectorQuery.isRegistered_of_eval {query : VectorQuery} {vector : NamedVector}
    (h : query.eval store registry = .ok (some vector))
    (hneeds : query.Needs store kind operation) :
    operation.IsRegistered registry kind := by
  cases query with
  | lookup source eltwise =>
    obtain ⟨rfl, hmem⟩ := hneeds
    obtain ⟨looked, -, happly⟩ := lookup_eq_some.1 h
    exact Registry.isRegistered_of_applyToVector happly operation hmem
  | reduced matrix reduction eltwise =>
    obtain ⟨named, between, hnamed, hreduce, happly⟩ := reduced_eq_some.1 h
    rcases hneeds with hneeds | ⟨rfl, rfl, hcolumns⟩ | ⟨rfl, hmem⟩
    · exact MatrixQuery.isRegistered_of_eval hnamed hneeds
    · exact Registry.isRegistered_of_reduceColumns hreduce fun hncols =>
        hcolumns (MatrixQuery.hasNoColumns_of_eval hnamed hncols)
    · exact Registry.isRegistered_of_applyToVector happly operation hmem

theorem ScalarQuery.isRegistered_of_eval {query : ScalarQuery} {value : Value}
    (h : query.eval store registry = .ok (some value)) (hneeds : query.Needs store kind operation) :
    operation.IsRegistered registry kind := by
  cases query with
  | lookup source eltwise =>
    obtain ⟨rfl, hmem⟩ := hneeds
    obtain ⟨looked, -, happly⟩ := lookup_eq_some.1 h
    exact Registry.isRegistered_of_applyToValue happly operation hmem
  | reduced vector reduction eltwise =>
    obtain ⟨named, between, hnamed, hreduce, happly⟩ := reduced_eq_some.1 h
    rcases hneeds with hneeds | ⟨rfl, rfl⟩ | ⟨rfl, hmem⟩
    · exact VectorQuery.isRegistered_of_eval hnamed hneeds
    · exact Registry.isRegistered_of_reduceVector hreduce
    · exact Registry.isRegistered_of_applyToValue happly operation hmem

/-- A query that is answered finds all the operations that it needs. -/
theorem Query.isRegistered_of_eval {query : Query} {answer : Answer}
    (h : query.eval store registry = .ok (some answer))
    (hneeds : query.Needs store kind operation) :
    operation.IsRegistered registry kind := by
  cases query with
  | scalar query =>
    obtain ⟨answer?, hanswer, h⟩ := bind_eq_ok.1 h
    obtain ⟨value, rfl, -⟩ := Option.map_eq_some_iff.1 (Except.ok.inj h)
    exact ScalarQuery.isRegistered_of_eval hanswer hneeds
  | vector query =>
    obtain ⟨answer?, hanswer, h⟩ := bind_eq_ok.1 h
    obtain ⟨value, rfl, -⟩ := Option.map_eq_some_iff.1 (Except.ok.inj h)
    exact VectorQuery.isRegistered_of_eval hanswer hneeds
  | matrix query =>
    obtain ⟨answer?, hanswer, h⟩ := bind_eq_ok.1 h
    obtain ⟨value, rfl, -⟩ := Option.map_eq_some_iff.1 (Except.ok.inj h)
    exact MatrixQuery.isRegistered_of_eval hanswer hneeds

theorem MatrixQuery.exists_keepsNothing {query : MatrixQuery}
    (h : query.eval store registry = .ok none) :
    ∃ filtered ∈ query.lookup.filteredAxes, filtered.KeepsNothing store := by
  obtain ⟨looked?, hlooked, h⟩ := bind_eq_ok.1 h
  rw [mapM_option_eq_none.1 h] at hlooked
  exact MatrixLookup.exists_keepsNothing hlooked

theorem VectorQuery.exists_keepsNothing {query : VectorQuery}
    (h : query.eval store registry = .ok none) :
    ∃ filtered ∈ query.filteredAxes, filtered.KeepsNothing store := by
  cases query with
  | lookup source eltwise => exact VectorLookup.exists_keepsNothing (lookup_eq_none.1 h)
  | reduced matrix reduction eltwise =>
    obtain ⟨named?, hnamed, h⟩ := bind_eq_ok.1 h
    rw [mapM_option_eq_none.1 h] at hnamed
    exact MatrixQuery.exists_keepsNothing hnamed

theorem ScalarQuery.exists_keepsNothing {query : ScalarQuery}
    (h : query.eval store registry = .ok none) :
    ∃ filtered ∈ query.filteredAxes, filtered.KeepsNothing store := by
  cases query with
  | lookup source eltwise =>
    obtain ⟨_, -, h⟩ := bind_eq_ok.1 h
    obtain ⟨_, -, h⟩ := bind_eq_ok.1 h
    cases h
  | reduced vector reduction eltwise =>
    obtain ⟨named?, hnamed, h⟩ := bind_eq_ok.1 h
    rw [mapM_option_eq_none.1 h] at hnamed
    exact VectorQuery.exists_keepsNothing hnamed

/-- There is no answer only where the filters of an axis keep no entry. -/
theorem Query.exists_keepsNothing {query : Query} (h : query.eval store registry = .ok none) :
    ∃ filtered ∈ query.filteredAxes, filtered.KeepsNothing store := by
  cases query with
  | scalar query =>
    obtain ⟨answer?, hanswer, h⟩ := bind_eq_ok.1 h
    rw [Option.map_eq_none_iff.1 (Except.ok.inj h)] at hanswer
    exact ScalarQuery.exists_keepsNothing hanswer
  | vector query =>
    obtain ⟨answer?, hanswer, h⟩ := bind_eq_ok.1 h
    rw [Option.map_eq_none_iff.1 (Except.ok.inj h)] at hanswer
    exact VectorQuery.exists_keepsNothing hanswer
  | matrix query =>
    obtain ⟨answer?, hanswer, h⟩ := bind_eq_ok.1 h
    rw [Option.map_eq_none_iff.1 (Except.ok.inj h)] at hanswer
    exact MatrixQuery.exists_keepsNothing hanswer

end Queries

/-- **A query that needs a missing operation is never answered.** If the registry lacks an
operation of a query, the evaluation fails, or there is no answer since the filters of an axis of
the query keep no entry of it. This is so for each operation, but for the reduction of a matrix
without columns. -/
theorem Query.eval_of_missing {store : Store} {registry : Registry} {query : Query}
    {kind : OperationKind} {operation : Invocation} (hneeds : query.Needs store kind operation)
    (hmissing : ¬ operation.IsRegistered registry kind) :
    (∃ error, query.eval store registry = .error error) ∨
      query.eval store registry = .ok none ∧
        ∃ filtered ∈ query.filteredAxes, filtered.KeepsNothing store := by
  cases h : query.eval store registry with
  | error error => exact .inl ⟨error, rfl⟩
  | ok answer? =>
    cases answer? with
    | none => exact .inr ⟨rfl, exists_keepsNothing h⟩
    | some answer => exact absurd (isRegistered_of_eval h hneeds) hmissing

/-- A registry without operations, and a query with an operation on the values of a matrix and a
reduction of its columns. -/
theorem Query.eval_of_missing_maxima : ∃ store query, store.Reachable ∧
    Query.parse .builtin "gene , cell @ counts % Abs %> Max" = .ok query ∧
    query.Needs store .reduction ⟨"Max", []⟩ ∧
    ¬ (Invocation.mk "Max" []).IsRegistered .empty .reduction ∧
    ((∃ error, query.eval store .empty = .error error) ∨
      query.eval store .empty = .ok none ∧
        ∃ filtered ∈ query.filteredAxes, filtered.KeepsNothing store) := by
  let store : Store := (Store.empty "data").run [.addAxis "gene" ["A"], .addAxis "cell" ["x"],
    .setMatrix "gene" "cell" "counts" ⟨1, 1, .int [1]⟩]
  let query : Query := .vector (.reduced
    ⟨⟨⟨"gene", []⟩, ⟨"cell", []⟩, "counts"⟩, [⟨"Abs", []⟩]⟩ ⟨"Max", []⟩ [])
  have hreachable : store.Reachable := (Store.Reachable.empty "data").run (by decide)
  have hparse : (Query.parse .builtin "gene , cell @ counts % Abs %> Max").toOption =
      some query := by
    decide +kernel
  have hentries : store.entries? "cell" = some ["x"] := by
    decide +kernel
  have hcolumns : ¬ (MatrixQuery.mk ⟨⟨"gene", []⟩, ⟨"cell", []⟩, "counts"⟩
      [⟨"Abs", []⟩]).HasNoColumns store := by
    rintro ⟨-, hempty⟩
    cases hempty.symm.trans hentries
  have hneeds : query.Needs store .reduction ⟨"Max", []⟩ := .inr (.inl ⟨rfl, rfl, hcolumns⟩)
  exact ⟨store, query, hreachable, toOption_eq_some.1 hparse, hneeds,
    Registry.not_isRegistered_empty, eval_of_missing hneeds Registry.not_isRegistered_empty⟩

/-- The sums of no columns, with a registry that has no sum. -/
theorem Query.eval_of_missing_columnless : ∃ store query, store.Reachable ∧
    Query.parse .builtin "gene , cell @ counts %> Sum" = .ok query ∧
    ¬ (Invocation.mk "Sum" []).IsRegistered .empty .reduction ∧
    query.eval store .empty = .ok (some (.vector ⟨"cell", [], .float []⟩)) := by
  let store : Store := (Store.empty "data").run [.addAxis "gene" ["A"], .addAxis "cell" [],
    .setMatrix "gene" "cell" "counts" ⟨1, 0, .int []⟩]
  let query : Query := .vector (.reduced
    ⟨⟨⟨"gene", []⟩, ⟨"cell", []⟩, "counts"⟩, []⟩ ⟨"Sum", []⟩ [])
  have hreachable : store.Reachable := (Store.Reachable.empty "data").run (by decide)
  have hparse : (Query.parse .builtin "gene , cell @ counts %> Sum").toOption = some query := by
    decide +kernel
  have heval : (query.eval store .empty).toOption =
      some (some (.vector ⟨"cell", [], .float []⟩)) := by
    decide +kernel
  exact ⟨store, query, hreachable, toOption_eq_some.1 hparse, Registry.not_isRegistered_empty,
    toOption_eq_some.1 heval⟩

end Axial
