import Axial.Proofs.MatrixCells
import Axial.Proofs.StoreHistory

/-!
# Matrix queries with the axes exchanged

A store presents a matrix transposed where its axes are asked for in the other order. The whole
stored matrix is transposed, and rows and columns are selected afterwards; operations are applied to
the values in the order in which they are kept. Each of these steps commutes with the exchange of
rows and columns, so a query with its axes exchanged has the transposed answer.

* `Store.matrix?_exchanged` : what a store presents for the other order of two axes.
* `MatrixLookup.eval_exchanged`, `Registry.applyToMatrix_transpose` : lookups and operations.
* `MatrixQuery.eval_eq_transpose` : queries.
-/

namespace Axial

/-- The same values with rows and columns exchanged. -/
def NamedMatrix.transpose? (named : NamedMatrix) : Option NamedMatrix :=
  named.matrix.transpose?.map
    (⟨named.columnsAxis, named.rowsAxis, named.columnEntries, named.rowEntries, ·⟩)

/-! ### Lookups -/

section Lookups

variable {store : Store}

/-- A matrix is presented transposed for the other order of two different axes. -/
theorem Store.matrix?_exchanged (hstore : store.Reachable) {rows columns : String}
    (hne : rows ≠ columns) (name : String) :
    store.matrix? columns rows name =
      (store.matrix? rows columns name).map (·.bind Matrix.transpose?) := by
  unfold matrix?
  cases hm : store.matrices.get? (rows, columns, name) with
  | some m =>
    -- it is kept in this order, so it is kept in no other
    rw [hstore.keepsOneLayout rows columns name m hne hm]
    rfl
  | none =>
    cases hm' : store.matrices.get? (columns, rows, name) with
    | none => rfl
    | some m' =>
      have hshape := (hstore.wellFormed.matrix columns rows name m' hm').1
      obtain ⟨transposed, htransposed, -⟩ := Matrix.exists_transpose? hshape
      simp [htransposed, Matrix.transpose?_of_transpose? hshape htransposed]

/-- There is no matrix only where the filters of an axis keep no entry. -/
theorem MatrixLookup.eval_eq_none {lookup : MatrixLookup} (h : lookup.eval store = .ok none) :
    lookup.rows.indices store = .ok none ∨ lookup.columns.indices store = .ok none := by
  obtain ⟨rows?, hrows, h⟩ := bind_eq_ok.1 h
  cases rows? with
  | none => exact .inl hrows
  | some rows =>
    obtain ⟨columns?, hcolumns, h⟩ := bind_eq_ok.1 h
    cases columns? with
    | none => exact .inr hcolumns
    | some columns =>
      simp only [bind_eq_ok, pure_eq_ok, Except.ok.injEq, reduceCtorEq, and_false,
        exists_false] at h

variable {rows columns : FilteredAxis} {name : String}

/-- Where both orders of the axes have an outcome, neither is absent alone. -/
theorem MatrixLookup.eval_eq_none_exchanged {looked? : Option NamedMatrix}
    (h : (MatrixLookup.mk rows columns name).eval store = .ok none)
    (h' : (MatrixLookup.mk columns rows name).eval store = .ok looked?) : looked? = none := by
  cases looked? with
  | none => rfl
  | some looked =>
    obtain ⟨kept, kept', -, -, -, -, hkept, hkept', -⟩ := eval_eq_some.1 h'
    rcases eval_eq_none h with hnone | hnone
    · cases hnone.symm.trans hkept'
    · cases hnone.symm.trans hkept

theorem MatrixLookup.eval_exchanged (hstore : store.Reachable) (hne : rows.axis ≠ columns.axis)
    {looked? looked'? : Option NamedMatrix}
    (h : (MatrixLookup.mk rows columns name).eval store = .ok looked?)
    (h' : (MatrixLookup.mk columns rows name).eval store = .ok looked'?) :
    looked?.mapM NamedMatrix.transpose? = some looked'? := by
  cases looked? with
  | none => rw [eval_eq_none_exchanged h h', Option.mapM_none, Option.pure_def]
  | some looked =>
    cases looked'? with
    | none => cases eval_eq_none_exchanged h' h
    | some looked' =>
      obtain ⟨kept, kept', m, rowEntries, columnEntries, picked, hkept, hkept', hm,
        ⟨hrowEntries, hrows⟩, ⟨hcolumnEntries, hcolumns⟩, hpicked, rfl⟩ := eval_eq_some.1 h
      obtain ⟨_, _, m', _, _, picked', hkept₂', hkept₂, hm', ⟨hcolumnEntries', -⟩,
        ⟨hrowEntries', -⟩, hpicked', rfl⟩ := eval_eq_some.1 h'
      -- both read the same axes with the same filters
      cases hkept.symm.trans hkept₂
      cases hkept'.symm.trans hkept₂'
      cases hrowEntries.symm.trans hrowEntries'
      cases hcolumnEntries.symm.trans hcolumnEntries'
      obtain ⟨hshape, hnrows, hncols⟩ := hstore.wellFormed.matrix? hm
      have htransposed : m.transpose? = some m' := by
        have hexchanged := Store.matrix?_exchanged hstore hne name
        rw [hm, hm'] at hexchanged
        exact (Option.some.inj hexchanged).symm
      have hpicked₂ : picked.transpose? = some picked' := by
        rw [← hpicked']
        exact (Matrix.select?_transpose hshape
          (Store.length_eq_of_entries? hrowEntries hnrows ▸ hrows)
          (Store.length_eq_of_entries? hcolumnEntries hncols ▸ hcolumns) htransposed hpicked).symm
      rw [Option.mapM_some, NamedMatrix.transpose?, hpicked₂]
      rfl

end Lookups

/-! ### Operations -/

/-- Operations do not depend on the order in which the values are kept. -/
theorem Registry.applyToMatrix_transpose {registry : Registry} {store : Store}
    {eltwise : List Invocation} {named named' result : NamedMatrix}
    (htranspose : named.transpose? = some named')
    (h : registry.applyToMatrix store eltwise named = .ok result) :
    ∃ result', result.transpose? = some result' ∧
      registry.applyToMatrix store eltwise named' = .ok result' := by
  obtain ⟨values, hvalues, rfl⟩ := applyToMatrix_eq_ok.1 h
  obtain ⟨_, hmatrix, rfl⟩ := Option.map_eq_some_iff.1 htranspose
  obtain ⟨_, hselect, rfl⟩ := Option.map_eq_some_iff.1 hmatrix
  obtain ⟨hrange, rfl⟩ := Column.select?_eq_some_iff.1 hselect
  have hpointwise := registry.pointwise_applyToColumn store eltwise
  have hlength := hpointwise.length_eq hvalues
  refine ⟨_, ?_, applyToMatrix_eq_ok.2 ⟨_, hpointwise.gather hvalues _, rfl⟩⟩
  have hselect' : values.select? named.matrix.rowMajorIndices =
      some (values.gather named.matrix.rowMajorIndices) :=
    Column.select?_eq_some (hlength ▸ hrange)
  rw [NamedMatrix.transpose?, Matrix.transpose?, Matrix.rowMajorIndices_of_length_eq hlength,
    hselect']
  rfl

/-! ### Queries -/

/-- **Exchanging the axes of a matrix query transposes its answer.** Where both orders of two
different axes can be evaluated, either both have no answer, or the axes and the entries of one
answer are those of the other exchanged, and its matrix is the transposed one: no answer refuses to
be transposed. -/
theorem MatrixQuery.eval_eq_transpose {store : Store} {registry : Registry}
    {rows columns : FilteredAxis} {name : String} {eltwise : List Invocation}
    {answer? answer'? : Option NamedMatrix} (hstore : store.Reachable)
    (hne : rows.axis ≠ columns.axis)
    (h : (MatrixQuery.mk ⟨rows, columns, name⟩ eltwise).eval store registry = .ok answer?)
    (h' : (MatrixQuery.mk ⟨columns, rows, name⟩ eltwise).eval store registry = .ok answer'?) :
    answer?.mapM NamedMatrix.transpose? = some answer'? := by
  obtain ⟨looked?, hlooked, happly⟩ := bind_eq_ok.1 h
  obtain ⟨looked'?, hlooked', happly'⟩ := bind_eq_ok.1 h'
  have hexchanged := MatrixLookup.eval_exchanged hstore hne hlooked hlooked'
  cases looked? with
  | none =>
    cases hexchanged
    cases happly
    cases happly'
    rfl
  | some looked =>
    rw [Option.mapM_some] at hexchanged
    obtain ⟨looked', htranspose, rfl⟩ := Option.map_eq_some_iff.1 hexchanged
    obtain ⟨named, hnamed, rfl⟩ := mapM_option_some_eq_ok.1 happly
    obtain ⟨named', hnamed', rfl⟩ := mapM_option_some_eq_ok.1 happly'
    obtain ⟨_, hresult, happlied⟩ := Registry.applyToMatrix_transpose htranspose hnamed
    cases happlied.symm.trans hnamed'
    rw [Option.mapM_some, hresult]
    rfl

/-- A matrix along some entries of one axis, and the query with its axes exchanged. -/
theorem MatrixQuery.eval_eq_transpose_filtered : ∃ store rows named, store.Reachable ∧
    MatrixQuery.parse .builtin "gene & name != B , cell @ counts % Abs" =
      .ok ⟨⟨rows, ⟨"cell", []⟩, "counts"⟩, [⟨"Abs", []⟩]⟩ ∧
    MatrixQuery.parse .builtin "cell , gene & name != B @ counts % Abs" =
      .ok ⟨⟨⟨"cell", []⟩, rows, "counts"⟩, [⟨"Abs", []⟩]⟩ ∧
    rows.axis ≠ "cell" ∧
    (MatrixQuery.mk ⟨rows, ⟨"cell", []⟩, "counts"⟩ [⟨"Abs", []⟩]).eval store .builtin =
      .ok (some named) ∧
    (MatrixQuery.mk ⟨⟨"cell", []⟩, rows, "counts"⟩ [⟨"Abs", []⟩]).eval store .builtin =
      .ok named.transpose? ∧
    named.rowEntries = ["A", "C"] ∧
      named.transpose?.map NamedMatrix.columnEntries = some ["A", "C"] := by
  let other : AxisFilter := ⟨.and, ⟨⟨"name", []⟩, some ⟨.notEqual, "B"⟩, false⟩⟩
  let store : Store := (Store.empty "data").run [.addAxis "gene" ["A", "B", "C"],
    .addAxis "cell" ["x", "y"],
    .setMatrix "cell" "gene" "counts" ⟨2, 3, .int [1, 2, 3, 4, -5, -6]⟩]
  have hreachable : store.Reachable := (Store.Reachable.empty "data").run (by decide)
  have heval : ((MatrixQuery.mk ⟨⟨"gene", [other]⟩, ⟨"cell", []⟩, "counts"⟩ [⟨"Abs", []⟩]).eval
      store .builtin).toOption = some (some ⟨"gene", "cell", ["A", "C"], ["x", "y"],
        ⟨2, 2, .float [.ofNat 1, .ofNat 5, .ofNat 2, .ofNat 6]⟩⟩) := by
    decide +kernel
  have heval' : ((MatrixQuery.mk ⟨⟨"cell", []⟩, ⟨"gene", [other]⟩, "counts"⟩ [⟨"Abs", []⟩]).eval
      store .builtin).toOption = some (some ⟨"cell", "gene", ["x", "y"], ["A", "C"],
        ⟨2, 2, .float [.ofNat 1, .ofNat 2, .ofNat 5, .ofNat 6]⟩⟩) := by
    decide +kernel
  have hparse : (MatrixQuery.parse .builtin "gene & name != B , cell @ counts % Abs").toOption =
      some ⟨⟨⟨"gene", [other]⟩, ⟨"cell", []⟩, "counts"⟩, [⟨"Abs", []⟩]⟩ := by
    decide +kernel
  have hparse' : (MatrixQuery.parse .builtin "cell , gene & name != B @ counts % Abs").toOption =
      some ⟨⟨⟨"cell", []⟩, ⟨"gene", [other]⟩, "counts"⟩, [⟨"Abs", []⟩]⟩ := by
    decide +kernel
  rw [toOption_eq_some] at heval heval' hparse hparse'
  have hne : "gene" ≠ "cell" := by decide
  have htranspose := eval_eq_transpose hreachable hne heval heval'
  rw [Option.mapM_some] at htranspose
  obtain ⟨_, htranspose, heq⟩ := Option.map_eq_some_iff.1 htranspose
  rw [← heq, ← htranspose] at heval'
  exact ⟨store, ⟨"gene", [other]⟩, _, hreachable, hparse, hparse', hne, heval, heval', rfl, rfl⟩

end Axial
