import Axial.Proofs.Arity
import Axial.Proofs.ExchangedAxes

/-!
# Slices with the entry first

In a slice of a matrix the entry may stand before the axis. Such a slice is the one with the axis
first: it runs along the rows of the matrix and the entry names a column, whichever stands first.
So its values are those of cells with the axes exchanged. A store presents a matrix in either order
of its axes, hence two different axes may as well stand in the written order in the query of a cell.
The order of an axis and itself says nothing to a store: there a slice with the entry first is a
column, while the queries of cells in the written order would tell a row.

* `Text.IsPairLookup` : a text asks for a matrix along two axes, each as asked.
* `ScalarLookup.eval_exchanged` : two different axes of a cell may be exchanged.
* `Query.eval_entry_first` : the values of a slice with the entry first.
* `Query.eval_entry_first_ne` : a matrix along one axis twice.
-/

namespace Axial

/-! ### Exchanging axes -/

/-- The axes of a cell may be exchanged. -/
theorem ScalarLookup.eval_exchanged {store : Store} (hstore : store.Reachable)
    {rows columns : AxisEntry} {name : String} {value : Value} (hne : rows.axis ≠ columns.axis)
    (h : (ScalarLookup.matrixEntry rows columns name).eval store = .ok value) :
    (ScalarLookup.matrixEntry columns rows name).eval store = .ok value := by
  obtain ⟨row, column, m, hrow, hcolumn, hm, hvalue⟩ := matrixEntry_eq_ok.1 h
  obtain ⟨hrows, hcolumns, hm⟩ := Store.requireMatrix_eq_ok.1 hm
  obtain ⟨transposed, htransposed, -⟩ := Matrix.exists_transpose? (hstore.wellFormed.matrix? hm).1
  have hexchanged : store.matrix? columns.axis rows.axis name = some (some transposed) := by
    rw [Store.matrix?_exchanged hstore hne, hm, Option.map_some, Option.bind_some, htransposed]
  have hcell : transposed.get? column row = m.get? row column :=
    Matrix.get?_transpose (hstore.wellFormed.matrix? hm).1 htransposed
  exact matrixEntry_eq_ok.2 ⟨column, row, transposed, hcolumn, hrow,
    Store.requireMatrix_eq_ok.2 ⟨hcolumns, hrows, hexchanged⟩, hcell.trans hvalue⟩

/-! ### Texts -/

/-- A text reads `left , right @ name`, with both sides of the comma as asked. -/
def Text.IsPairLookup (left right : Expr → Prop) (name text : String) : Prop :=
  ∃ cleaned p q r l l', Expr.parse text =
      .ok (.binary .lookup p (.binary .comma q l l') (.operand name r), cleaned) ∧
    left l ∧ right l'

section Parse

variable {registry : Registry} {name text : String}

/-- A slice may be written with its entry first. -/
theorem Query.parse_entry_first {entry : AxisEntry} {axis : FilteredAxis}
    (h : Text.IsPairLookup (AxisEntry.ofExpr · = .ok entry) (FilteredAxis.ofExpr · = .ok axis) name
      text) :
    Query.parse registry text = .ok (.vector (.lookup (.matrixSlice axis entry name) [])) := by
  obtain ⟨cleaned, p, q, r, l, l', htree, hentry, haxis⟩ := h
  refine parse_eq_ok.2 ⟨_, cleaned, htree, ofExpr_eq_ok_iff.2 ?_⟩
  have hl : l.isEntry = true := AxisEntry.isEntry_of_ofExpr hentry
  have hl' : l'.isEntry = false := FilteredAxis.isEntry_of_ofExpr haxis
  have hlookup : VectorLookup.ofExpr (.binary .lookup p (.binary .comma q l l') (.operand name r)) =
      .ok (.matrixSlice axis entry name) := by
    simp only [VectorLookup.ofExpr, hl, hl', Bool.not_false, Bool.and_self, if_true]
    rw [haxis, hentry]
    rfl
  exact bind_eq_ok.2 ⟨(_, []), rfl, bind_eq_ok.2 ⟨_, hlookup, rfl⟩⟩

/-- The query of a cell. -/
def Query.cell (rows columns : AxisEntry) (name : String) : Query :=
  .scalar (.lookup (.matrixEntry rows columns name) [])

theorem Query.parse_cell {rows columns : AxisEntry}
    (h : Text.IsPairLookup (AxisEntry.ofExpr · = .ok rows) (AxisEntry.ofExpr · = .ok columns) name
      text) :
    Query.parse registry text = .ok (.cell rows columns name) := by
  obtain ⟨cleaned, p, q, r, l, l', htree, hrows, hcolumns⟩ := h
  refine parse_eq_ok.2 ⟨_, cleaned, htree, ofExpr_eq_ok_iff.2 ?_⟩
  have hlookup : ScalarLookup.ofExpr (.binary .lookup p (.binary .comma q l l') (.operand name r)) =
      .ok (.matrixEntry rows columns name) := by
    rw [ScalarLookup.ofExpr, hrows, hcolumns]
    rfl
  exact bind_eq_ok.2 ⟨(_, []), rfl, bind_eq_ok.2 ⟨_, hlookup, rfl⟩⟩

end Parse

theorem Query.eval_cell {store : Store} {registry : Registry} {rows columns : AxisEntry}
    {name : String} {value : Value}
    (h : (ScalarLookup.matrixEntry rows columns name).eval store = .ok value) :
    (Query.cell rows columns name).eval store registry = .ok (some (.scalar value)) := by
  have heval : (ScalarQuery.lookup (.matrixEntry rows columns name) []).eval store registry =
      .ok (some value) :=
    ScalarQuery.lookup_eq_some.2 ⟨value, h, rfl⟩
  rw [cell, Query.eval, heval]
  rfl

/-! ### The values of a slice -/

/-- **A slice with the entry first is made of cells.** Where a text `X = x , Y … @ name` has an
answer, its value at each entry `y` is the answer to the query `Y = y , X = x @ name`. If the axes
differ, it is the answer to `X = x , Y = y @ name`, too, and every text of that form is parsed to
this query. -/
theorem Query.eval_entry_first {store : Store} {registry evaluation : Registry} {text name : String}
    {entry : AxisEntry} {axis : FilteredAxis} {query : Query} {vector : NamedVector}
    (hstore : store.Reachable)
    (htext : Text.IsPairLookup (AxisEntry.ofExpr · = .ok entry) (FilteredAxis.ofExpr · = .ok axis)
      name text)
    (hparse : Query.parse registry text = .ok query)
    (heval : query.eval store evaluation = .ok (some (.vector vector))) :
    ∀ y ∈ vector.entries, ∃ value, vector.get? y = some value ∧
      (Query.cell ⟨axis.axis, y⟩ entry name).eval store evaluation = .ok (some (.scalar value)) ∧
      (entry.axis ≠ axis.axis →
        (Query.cell entry ⟨axis.axis, y⟩ name).eval store evaluation =
          .ok (some (.scalar value))) ∧
      ∀ cell, Text.IsPairLookup (AxisEntry.ofExpr · = .ok entry)
          (AxisEntry.ofExpr · = .ok ⟨axis.axis, y⟩) name cell →
        Query.parse registry cell = .ok (.cell entry ⟨axis.axis, y⟩ name) := by
  cases (parse_entry_first htext).symm.trans hparse
  obtain ⟨answer?, hslice, hanswer⟩ := bind_eq_ok.1 heval
  cases answer? with
  | none => cases hanswer
  | some sliced =>
    cases hanswer
    intro y hy
    obtain ⟨looked, hlooked, happly⟩ := VectorQuery.lookup_eq_some.1 hslice
    -- no operation is applied
    cases happly
    obtain ⟨value, hvalue, hcell⟩ :=
      VectorLookup.exists_get?_slice hstore.wellFormed hlooked y hy
    refine ⟨value, hvalue, eval_cell hcell, fun hne => ?_, fun cell hcell => parse_cell hcell⟩
    exact eval_cell (ScalarLookup.eval_exchanged hstore (Ne.symm hne) hcell)

/-- The counts of a gene in all cells but one, and in the last of them. -/
theorem Query.eval_entry_first_counts : ∃ store query vector value, store.Reachable ∧
    Query.parse .builtin "gene = B , cell & name != y @ counts" = .ok query ∧
    query.eval store .builtin = .ok (some (.vector vector)) ∧
    vector.entries = ["x", "z"] ∧ vector.get? "z" = some value ∧
    Query.parse .builtin "gene=B,cell=z@counts" =
      .ok (.cell ⟨"gene", "B"⟩ ⟨"cell", "z"⟩ "counts") ∧
    (Query.cell ⟨"gene", "B"⟩ ⟨"cell", "z"⟩ "counts").eval store .builtin =
      .ok (some (.scalar value)) := by
  let other : AxisFilter := ⟨.and, ⟨⟨"name", []⟩, some ⟨.notEqual, "y"⟩, false⟩⟩
  let query : Query :=
    .vector (.lookup (.matrixSlice ⟨"cell", [other]⟩ ⟨"gene", "B"⟩ "counts") [])
  let store : Store := (Store.empty "data").run [.addAxis "gene" ["A", "B"],
    .addAxis "cell" ["x", "y", "z"],
    .setMatrix "gene" "cell" "counts" ⟨2, 3, .int [1, 2, 3, 4, 5, 6]⟩]
  have hreachable : store.Reachable := (Store.Reachable.empty "data").run (by decide)
  have heval : (query.eval store .builtin).toOption =
      some (some (.vector ⟨"cell", ["x", "z"], .int [2, 6]⟩)) := by
    decide +kernel
  have hslice : (Expr.parse "gene = B , cell & name != y @ counts").toOption = some
      (.binary .lookup 28 (.binary .comma 9
        (.binary (.compare .equal) 5 (.operand "gene" 0) (.operand "B" 7))
        (.binary (.combine .and) 16 (.operand "cell" 11)
          (.binary (.compare .notEqual) 23 (.operand "name" 18) (.operand "y" 26))))
        (.operand "counts" 30), "gene = B , cell & name != y @ counts") := by
    decide +kernel
  have hcell : (Expr.parse "gene=B,cell=z@counts").toOption = some
      (.binary .lookup 13 (.binary .comma 6
        (.binary (.compare .equal) 4 (.operand "gene" 0) (.operand "B" 5))
        (.binary (.compare .equal) 11 (.operand "cell" 7) (.operand "z" 12)))
        (.operand "counts" 14), "gene=B,cell=z@counts") := by
    decide +kernel
  rw [toOption_eq_some] at heval hslice hcell
  have hfirst : Text.IsPairLookup (AxisEntry.ofExpr · = .ok ⟨"gene", "B"⟩)
      (FilteredAxis.ofExpr · = .ok ⟨"cell", [other]⟩) "counts"
      "gene = B , cell & name != y @ counts" :=
    ⟨_, _, _, _, _, _, hslice, rfl, rfl⟩
  have hparse : Query.parse .builtin "gene = B , cell & name != y @ counts" = .ok query :=
    parse_entry_first hfirst
  obtain ⟨value, hvalue, -, hsame, htext⟩ :=
    eval_entry_first hreachable hfirst hparse heval "z" (by decide)
  exact ⟨store, query, _, value, hreachable, hparse, heval, rfl, hvalue,
    htext _ ⟨_, _, _, _, _, _, hcell, rfl, rfl⟩, hsame (by decide)⟩

/-- Along one axis twice, a slice with the entry first is not what the queries of its cells in the
written order tell: the entry names a column in the slice, and a row in those queries. -/
theorem Query.eval_entry_first_ne : ∃ store slice cell vector value, store.Reachable ∧
    Query.parse .builtin "gene = A , gene @ m" = .ok slice ∧
    slice.eval store .builtin = .ok (some (.vector vector)) ∧ "B" ∈ vector.entries ∧
    Query.parse .builtin "gene = A , gene = B @ m" = .ok cell ∧
    cell.eval store .builtin = .ok (some (.scalar value)) ∧
    vector.get? "B" ≠ some value := by
  let slice : Query := .vector (.lookup (.matrixSlice ⟨"gene", []⟩ ⟨"gene", "A"⟩ "m") [])
  let cell : Query := .cell ⟨"gene", "A"⟩ ⟨"gene", "B"⟩ "m"
  let store : Store := (Store.empty "data").run [.addAxis "gene" ["A", "B"],
    .setMatrix "gene" "gene" "m" ⟨2, 2, .int [1, 2, 3, 4]⟩]
  have hreachable : store.Reachable := (Store.Reachable.empty "data").run (by decide)
  have hslice : (slice.eval store .builtin).toOption =
      some (some (.vector ⟨"gene", ["A", "B"], .int [1, 2]⟩)) := by
    decide +kernel
  have hcell : (cell.eval store .builtin).toOption = some (some (.scalar (.int 3))) := by
    decide +kernel
  have hparse : (Query.parse .builtin "gene = A , gene @ m").toOption = some slice := by
    decide +kernel
  have hparse' : (Query.parse .builtin "gene = A , gene = B @ m").toOption = some cell := by
    decide +kernel
  rw [toOption_eq_some] at hslice hcell hparse hparse'
  exact ⟨store, slice, cell, _, _, hreachable, hparse, hslice, by decide, hparse', hcell, by decide⟩

end Axial
