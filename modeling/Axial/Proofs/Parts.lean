import Axial.Proofs.Outcome
import Axial.Query.OfExpr

/-!
# The parts of queries

What holds of all names and all operations of a query, and what a query is made of when it comes
from a tree.

* `Query.IsMadeOf` : all names of a query and all its operations are as asked, and no lookup is
  both inverted and compared.
* `Query.isMadeOf_ofExpr` : a query is made of the operands of its tree, and of operations that a
  registry resolves.
-/

namespace Axial

/-! ### Parts as asked -/

section IsMadeOf

variable (N : String → Prop) (I : OperationKind → Invocation → Prop)

/-- All operands of a tree are as asked. -/
def Expr.IsMadeOf (expr : Expr) : Prop :=
  ∀ name, .operand name ∈ expr.tokens → N name

/-- All names of a chain are as asked. -/
def PropertyChain.IsMadeOf (chain : PropertyChain) : Prop :=
  ∀ name ∈ chain.names, N name

/-- The names and the literal of a lookup are as asked, and it is not both inverted and compared. -/
structure AxisLookup.IsMadeOf (lookup : AxisLookup) : Prop where
  property : lookup.property.IsMadeOf N
  literal : ∀ test ∈ lookup.test, N test.literal
  test_eq_none : lookup.inverted = true → lookup.test = none

/-- An axis and its filters are as asked. -/
structure FilteredAxis.IsMadeOf (filtered : FilteredAxis) : Prop where
  axis : N filtered.axis
  filters : ∀ filter ∈ filtered.filters, filter.lookup.IsMadeOf N

/-- The names of an entry and its axis are as asked. -/
structure AxisEntry.IsMadeOf (entry : AxisEntry) : Prop where
  axis : N entry.axis
  entry : N entry.entry

/-- The parts of the lookup of a value are as asked. -/
def ScalarLookup.IsMadeOf : ScalarLookup → Prop
  | .scalar name => N name
  | .vectorEntry entry property => entry.IsMadeOf N ∧ property.IsMadeOf N
  | .matrixEntry rows columns name => rows.IsMadeOf N ∧ columns.IsMadeOf N ∧ N name

/-- The parts of the lookup of a vector are as asked. -/
def VectorLookup.IsMadeOf : VectorLookup → Prop
  | .vector axis property => axis.IsMadeOf N ∧ property.IsMadeOf N
  | .matrixSlice axis entry name => axis.IsMadeOf N ∧ entry.IsMadeOf N ∧ N name

/-- The parts of the lookup of a matrix are as asked. -/
structure MatrixLookup.IsMadeOf (lookup : MatrixLookup) : Prop where
  rows : lookup.rows.IsMadeOf N
  columns : lookup.columns.IsMadeOf N
  name : N lookup.name

/-- The lookup and the operations of a matrix query are as asked. -/
structure MatrixQuery.IsMadeOf (query : MatrixQuery) : Prop where
  lookup : query.lookup.IsMadeOf N
  eltwise : ∀ invocation ∈ query.eltwise, I .eltwise invocation

/-- The lookup and the operations of a vector query are as asked. -/
def VectorQuery.IsMadeOf : VectorQuery → Prop
  | .lookup source eltwise => source.IsMadeOf N ∧ ∀ invocation ∈ eltwise, I .eltwise invocation
  | .reduced matrix reduction eltwise =>
    matrix.IsMadeOf N I ∧ I .reduction reduction ∧ ∀ invocation ∈ eltwise, I .eltwise invocation

/-- The lookup and the operations of a scalar query are as asked. -/
def ScalarQuery.IsMadeOf : ScalarQuery → Prop
  | .lookup source eltwise => source.IsMadeOf N ∧ ∀ invocation ∈ eltwise, I .eltwise invocation
  | .reduced vector reduction eltwise =>
    vector.IsMadeOf N I ∧ I .reduction reduction ∧ ∀ invocation ∈ eltwise, I .eltwise invocation

/-- All names and all operations of a query are as asked, and no lookup is both inverted and
compared. -/
def Query.IsMadeOf : Query → Prop
  | .scalar query => query.IsMadeOf N I
  | .vector query => query.IsMadeOf N I
  | .matrix query => query.IsMadeOf N I

end IsMadeOf

/-! ### Parts of trees -/

section OfExpr

variable {N : String → Prop} {expr : Expr}

@[simp] theorem Expr.isMadeOf_operand {name : String} {position : Nat} :
    (Expr.operand name position).IsMadeOf N ↔ N name := by
  simp [Expr.IsMadeOf, Expr.tokens]

@[simp] theorem Expr.isMadeOf_binary {op : Operator} {position : Nat} {left right : Expr} :
    (Expr.binary op position left right).IsMadeOf N ↔ left.IsMadeOf N ∧ right.IsMadeOf N := by
  simp [Expr.IsMadeOf, Expr.tokens, or_imp, forall_and]

@[simp] theorem Expr.isMadeOf_inverted {position : Nat} {inner : Expr} :
    (Expr.inverted position inner).IsMadeOf N ↔ inner.IsMadeOf N := by
  simp [Expr.IsMadeOf, Expr.tokens]

theorem Expr.isMadeOf_name {expected : Expectation} {name : String}
    (h : expr.name expected = .ok name) (he : expr.IsMadeOf N) : N name := by
  cases expr with
  | operand value position =>
    cases h
    exact isMadeOf_operand.1 he
  | _ => cases h

theorem PropertyChain.isMadeOf_ofExpr {chain : PropertyChain}
    (h : PropertyChain.ofExpr expr = .ok chain) (he : expr.IsMadeOf N) : chain.IsMadeOf N := by
  fun_induction PropertyChain.ofExpr expr generalizing chain with
  | case1 position left right ih =>
    obtain ⟨first, hfirst, h⟩ := bind_eq_ok.1 h
    obtain ⟨rest, hrest, h⟩ := bind_eq_ok.1 h
    cases h
    obtain ⟨hl, hr⟩ := Expr.isMadeOf_binary.1 he
    intro name hname
    rcases List.mem_cons.1 hname with rfl | hname
    · exact Expr.isMadeOf_name hfirst hl
    · exact ih hrest hr name hname
  | case2 expr hchain =>
    obtain ⟨first, hfirst, h⟩ := bind_eq_ok.1 h
    cases h
    simpa [IsMadeOf, names] using Expr.isMadeOf_name hfirst he

theorem AxisLookup.isMadeOf_ofExpr {lookup : AxisLookup} (h : AxisLookup.ofExpr expr = .ok lookup)
    (he : expr.IsMadeOf N) : lookup.IsMadeOf N := by
  unfold AxisLookup.ofExpr at h
  split at h
  · obtain ⟨property, hproperty, h⟩ := bind_eq_ok.1 h
    cases h
    exact ⟨PropertyChain.isMadeOf_ofExpr hproperty (Expr.isMadeOf_inverted.1 he), by simp,
      fun _ => rfl⟩
  · obtain ⟨property, hproperty, h⟩ := bind_eq_ok.1 h
    obtain ⟨literal, hliteral, h⟩ := bind_eq_ok.1 h
    cases h
    obtain ⟨hl, hr⟩ := Expr.isMadeOf_binary.1 he
    refine ⟨PropertyChain.isMadeOf_ofExpr hproperty hl, ?_, by simp⟩
    simpa using Expr.isMadeOf_name hliteral hr
  · obtain ⟨property, hproperty, h⟩ := bind_eq_ok.1 h
    cases h
    exact ⟨PropertyChain.isMadeOf_ofExpr hproperty he, by simp, by simp⟩

theorem AxisFilter.isMadeOf_listOfExpr {combinator : Combinator} {filters : List AxisFilter}
    (h : AxisFilter.listOfExpr combinator expr = .ok filters) (he : expr.IsMadeOf N) :
    ∀ filter ∈ filters, filter.lookup.IsMadeOf N := by
  fun_induction AxisFilter.listOfExpr combinator expr generalizing filters with
  | case1 combinator next position left right ih =>
    obtain ⟨lookup, hlookup, h⟩ := bind_eq_ok.1 h
    obtain ⟨more, hmore, h⟩ := bind_eq_ok.1 h
    cases h
    obtain ⟨hl, hr⟩ := Expr.isMadeOf_binary.1 he
    intro filter hfilter
    rcases List.mem_cons.1 hfilter with rfl | hfilter
    · exact AxisLookup.isMadeOf_ofExpr hlookup hl
    · exact ih hmore hr filter hfilter
  | case2 combinator expr hcombine =>
    obtain ⟨lookup, hlookup, h⟩ := bind_eq_ok.1 h
    cases h
    simpa using AxisLookup.isMadeOf_ofExpr hlookup he

theorem FilteredAxis.isMadeOf_ofExpr {axis : FilteredAxis}
    (h : FilteredAxis.ofExpr expr = .ok axis) (he : expr.IsMadeOf N) : axis.IsMadeOf N := by
  unfold FilteredAxis.ofExpr at h
  split at h
  · cases h
    exact ⟨Expr.isMadeOf_operand.1 he, by simp⟩
  · obtain ⟨name, hname, h⟩ := bind_eq_ok.1 h
    obtain ⟨filters, hfilters, h⟩ := bind_eq_ok.1 h
    cases h
    obtain ⟨hl, hr⟩ := Expr.isMadeOf_binary.1 he
    exact ⟨Expr.isMadeOf_name hname hl, AxisFilter.isMadeOf_listOfExpr hfilters hr⟩
  · cases h

theorem AxisEntry.isMadeOf_ofExpr {entry : AxisEntry} (h : AxisEntry.ofExpr expr = .ok entry)
    (he : expr.IsMadeOf N) : entry.IsMadeOf N := by
  unfold AxisEntry.ofExpr at h
  split at h
  · obtain ⟨axis, haxis, h⟩ := bind_eq_ok.1 h
    obtain ⟨name, hname, h⟩ := bind_eq_ok.1 h
    cases h
    obtain ⟨hl, hr⟩ := Expr.isMadeOf_binary.1 he
    exact ⟨Expr.isMadeOf_name haxis hl, Expr.isMadeOf_name hname hr⟩
  · cases h

theorem ScalarLookup.isMadeOf_ofExpr {lookup : ScalarLookup}
    (h : ScalarLookup.ofExpr expr = .ok lookup) (he : expr.IsMadeOf N) : lookup.IsMadeOf N := by
  unfold ScalarLookup.ofExpr at h
  split at h
  · cases h
    exact Expr.isMadeOf_operand.1 he
  · obtain ⟨rows, hrows, h⟩ := bind_eq_ok.1 h
    obtain ⟨columns, hcolumns, h⟩ := bind_eq_ok.1 h
    obtain ⟨name, hname, h⟩ := bind_eq_ok.1 h
    cases h
    simp only [Expr.isMadeOf_binary] at he
    exact ⟨AxisEntry.isMadeOf_ofExpr hrows he.1.1, AxisEntry.isMadeOf_ofExpr hcolumns he.1.2,
      Expr.isMadeOf_name hname he.2⟩
  · obtain ⟨entry, hentry, h⟩ := bind_eq_ok.1 h
    obtain ⟨property, hproperty, h⟩ := bind_eq_ok.1 h
    cases h
    obtain ⟨hl, hr⟩ := Expr.isMadeOf_binary.1 he
    exact ⟨AxisEntry.isMadeOf_ofExpr hentry hl, AxisLookup.isMadeOf_ofExpr hproperty hr⟩
  · cases h

theorem VectorLookup.isMadeOf_ofExpr {lookup : VectorLookup}
    (h : VectorLookup.ofExpr expr = .ok lookup) (he : expr.IsMadeOf N) : lookup.IsMadeOf N := by
  unfold VectorLookup.ofExpr at h
  split at h
  · next left right property =>
    obtain ⟨axis, haxis, h⟩ := bind_eq_ok.1 h
    obtain ⟨entry, hentry, h⟩ := bind_eq_ok.1 h
    obtain ⟨name, hname, h⟩ := bind_eq_ok.1 h
    cases h
    obtain ⟨he, hproperty⟩ := Expr.isMadeOf_binary.1 he
    obtain ⟨hl, hr⟩ := Expr.isMadeOf_binary.1 he
    have hname := Expr.isMadeOf_name hname hproperty
    -- the entry may stand first
    cases hswap : left.isEntry && !right.isEntry <;> rw [hswap] at haxis hentry
    · exact ⟨FilteredAxis.isMadeOf_ofExpr haxis hl, AxisEntry.isMadeOf_ofExpr hentry hr, hname⟩
    · exact ⟨FilteredAxis.isMadeOf_ofExpr haxis hr, AxisEntry.isMadeOf_ofExpr hentry hl, hname⟩
  · obtain ⟨axis, haxis, h⟩ := bind_eq_ok.1 h
    obtain ⟨property, hproperty, h⟩ := bind_eq_ok.1 h
    cases h
    obtain ⟨hl, hr⟩ := Expr.isMadeOf_binary.1 he
    exact ⟨FilteredAxis.isMadeOf_ofExpr haxis hl, AxisLookup.isMadeOf_ofExpr hproperty hr⟩
  · cases h

theorem MatrixLookup.isMadeOf_ofExpr {lookup : MatrixLookup}
    (h : MatrixLookup.ofExpr expr = .ok lookup) (he : expr.IsMadeOf N) : lookup.IsMadeOf N := by
  unfold MatrixLookup.ofExpr at h
  split at h
  · obtain ⟨rows, hrows, h⟩ := bind_eq_ok.1 h
    obtain ⟨columns, hcolumns, h⟩ := bind_eq_ok.1 h
    obtain ⟨name, hname, h⟩ := bind_eq_ok.1 h
    cases h
    simp only [Expr.isMadeOf_binary] at he
    exact ⟨FilteredAxis.isMadeOf_ofExpr hrows he.1.1,
      FilteredAxis.isMadeOf_ofExpr hcolumns he.1.2, Expr.isMadeOf_name hname he.2⟩
  · cases h
  · cases h

end OfExpr

/-! ### Queries of trees -/

section Queries

variable {N : String → Prop} {I : OperationKind → Invocation → Prop} {registry : Registry}
  {expr : Expr}

/-- What a registry resolves is as asked. -/
def Registry.Resolves (registry : Registry) (N : String → Prop)
    (I : OperationKind → Invocation → Prop) : Prop :=
  ∀ kind operation assignments invocation, N operation →
    Invocation.resolve registry kind operation assignments = .ok invocation → I kind invocation

variable (hI : registry.Resolves N I)

include hI

theorem Invocation.of_ofExpr {kind : OperationKind} {invocation : Invocation}
    (h : Invocation.ofExpr registry kind expr = .ok invocation) (he : expr.IsMadeOf N) :
    I kind invocation := by
  unfold Invocation.ofExpr at h
  split at h
  · obtain ⟨operation, hoperation, h⟩ := bind_eq_ok.1 h
    obtain ⟨assignments, -, h⟩ := bind_eq_ok.1 h
    have hname := Expr.isMadeOf_name hoperation (Expr.isMadeOf_binary.1 he).1
    exact hI kind operation assignments invocation hname h
  · obtain ⟨operation, hoperation, h⟩ := bind_eq_ok.1 h
    exact hI kind operation [] invocation (Expr.isMadeOf_name hoperation he) h

theorem of_eltwiseOfExpr {eltwise : List Invocation}
    (h : eltwiseOfExpr registry expr = .ok eltwise) (he : expr.IsMadeOf N) :
    ∀ invocation ∈ eltwise, I .eltwise invocation := by
  fun_induction eltwiseOfExpr registry expr generalizing eltwise with
  | case1 position left right ih =>
    obtain ⟨first, hfirst, h⟩ := bind_eq_ok.1 h
    obtain ⟨more, hmore, h⟩ := bind_eq_ok.1 h
    cases h
    obtain ⟨hl, hr⟩ := Expr.isMadeOf_binary.1 he
    intro invocation hmem
    rcases List.mem_cons.1 hmem with rfl | hmem
    · exact Invocation.of_ofExpr hI hfirst hl
    · exact ih hmore hr invocation hmem
  | case2 expr heltwise =>
    obtain ⟨first, hfirst, h⟩ := bind_eq_ok.1 h
    cases h
    simpa using Invocation.of_ofExpr hI hfirst he

theorem of_stageOfExpr {base : Expr} {eltwise : List Invocation}
    (h : stageOfExpr registry expr = .ok (base, eltwise)) (he : expr.IsMadeOf N) :
    base.IsMadeOf N ∧ ∀ invocation ∈ eltwise, I .eltwise invocation := by
  unfold stageOfExpr at h
  split at h
  · obtain ⟨eltwise, heltwise, h⟩ := bind_eq_ok.1 h
    cases h
    obtain ⟨hl, hr⟩ := Expr.isMadeOf_binary.1 he
    exact ⟨hl, of_eltwiseOfExpr hI heltwise hr⟩
  · cases h
    exact ⟨he, by simp⟩

theorem of_reductionOfExpr {reduction : Invocation} {eltwise : List Invocation}
    (h : reductionOfExpr registry expr = .ok (reduction, eltwise)) (he : expr.IsMadeOf N) :
    I .reduction reduction ∧ ∀ invocation ∈ eltwise, I .eltwise invocation := by
  unfold reductionOfExpr at h
  split at h
  · obtain ⟨reduction, hreduction, h⟩ := bind_eq_ok.1 h
    obtain ⟨eltwise, heltwise, h⟩ := bind_eq_ok.1 h
    cases h
    obtain ⟨hl, hr⟩ := Expr.isMadeOf_binary.1 he
    exact ⟨Invocation.of_ofExpr hI hreduction hl, of_eltwiseOfExpr hI heltwise hr⟩
  · obtain ⟨reduction, hreduction, h⟩ := bind_eq_ok.1 h
    cases h
    exact ⟨Invocation.of_ofExpr hI hreduction he, by simp⟩

theorem MatrixQuery.isMadeOf_ofExpr {query : MatrixQuery}
    (h : MatrixQuery.ofExpr registry expr = .ok query) (he : expr.IsMadeOf N) :
    query.IsMadeOf N I := by
  unfold MatrixQuery.ofExpr at h
  split at h
  · cases h
  · obtain ⟨⟨base, eltwise⟩, hstage, h⟩ := bind_eq_ok.1 h
    obtain ⟨lookup, hlookup, h⟩ := bind_eq_ok.1 h
    cases h
    obtain ⟨hbase, heltwise⟩ := of_stageOfExpr hI hstage he
    exact ⟨MatrixLookup.isMadeOf_ofExpr hlookup hbase, heltwise⟩

theorem VectorQuery.isMadeOf_ofExpr {query : VectorQuery}
    (h : VectorQuery.ofExpr registry expr = .ok query) (he : expr.IsMadeOf N) :
    query.IsMadeOf N I := by
  unfold VectorQuery.ofExpr at h
  split at h
  · obtain ⟨matrix, hmatrix, h⟩ := bind_eq_ok.1 h
    obtain ⟨⟨reduction, eltwise⟩, hreduction, h⟩ := bind_eq_ok.1 h
    cases h
    obtain ⟨hl, hr⟩ := Expr.isMadeOf_binary.1 he
    exact ⟨MatrixQuery.isMadeOf_ofExpr hI hmatrix hl, of_reductionOfExpr hI hreduction hr⟩
  · obtain ⟨⟨base, eltwise⟩, hstage, h⟩ := bind_eq_ok.1 h
    obtain ⟨lookup, hlookup, h⟩ := bind_eq_ok.1 h
    cases h
    obtain ⟨hbase, heltwise⟩ := of_stageOfExpr hI hstage he
    exact ⟨VectorLookup.isMadeOf_ofExpr hlookup hbase, heltwise⟩

theorem ScalarQuery.isMadeOf_ofExpr {query : ScalarQuery}
    (h : ScalarQuery.ofExpr registry expr = .ok query) (he : expr.IsMadeOf N) :
    query.IsMadeOf N I := by
  unfold ScalarQuery.ofExpr at h
  split at h
  · obtain ⟨vector, hvector, h⟩ := bind_eq_ok.1 h
    obtain ⟨⟨reduction, eltwise⟩, hreduction, h⟩ := bind_eq_ok.1 h
    cases h
    obtain ⟨hl, hr⟩ := Expr.isMadeOf_binary.1 he
    exact ⟨VectorQuery.isMadeOf_ofExpr hI hvector hl, of_reductionOfExpr hI hreduction hr⟩
  · obtain ⟨⟨base, eltwise⟩, hstage, h⟩ := bind_eq_ok.1 h
    obtain ⟨lookup, hlookup, h⟩ := bind_eq_ok.1 h
    cases h
    obtain ⟨hbase, heltwise⟩ := of_stageOfExpr hI hstage he
    exact ⟨ScalarLookup.isMadeOf_ofExpr hlookup hbase, heltwise⟩

/-- A query is made of the operands of its tree, and of operations that its registry resolves. -/
theorem Query.isMadeOf_ofExpr {query : Query} (h : Query.ofExpr registry expr = .ok query)
    (he : expr.IsMadeOf N) : query.IsMadeOf N I := by
  unfold Query.ofExpr at h
  obtain ⟨arity, -, h⟩ := bind_eq_ok.1 h
  split at h
  · cases h
  · split at h
    · obtain ⟨scalar, hscalar, h⟩ := bind_eq_ok.1 h
      cases h
      exact ScalarQuery.isMadeOf_ofExpr hI hscalar he
    · obtain ⟨vector, hvector, h⟩ := bind_eq_ok.1 h
      cases h
      exact VectorQuery.isMadeOf_ofExpr hI hvector he
    · obtain ⟨matrix, hmatrix, h⟩ := bind_eq_ok.1 h
      cases h
      exact MatrixQuery.isMadeOf_ofExpr hI hmatrix he

end Queries

/-! ### Parsed queries -/

theorem parseWith_eq_ok {α : Type} {ofExpr : Expr → Except ParseCause α} {text : String} {a : α} :
    parseWith ofExpr text = .ok a ↔
      ∃ expr cleaned, Expr.parse text = .ok (expr, cleaned) ∧ ofExpr expr = .ok a := by
  simp only [parseWith, bind_eq_ok, mapError_eq_ok, Prod.exists]

theorem Query.parse_eq_ok {registry : Registry} {text : String} {query : Query} :
    Query.parse registry text = .ok query ↔
      ∃ expr cleaned, Expr.parse text = .ok (expr, cleaned) ∧
        Query.ofExpr registry expr = .ok query :=
  parseWith_eq_ok

theorem Invocation.exists_signature {registry : Registry} {kind : OperationKind}
    {operation : String} {assignments : List Assignment} {invocation : Invocation}
    (h : Invocation.resolve registry kind operation assignments = .ok invocation) :
    invocation.name = operation ∧
      ∃ signature, registry.signature? kind operation = some signature ∧
        checkAssignments kind signature operation [] assignments = .ok () ∧
        signature.parameters.mapM (assignedValue kind operation assignments) =
          .ok invocation.parameters := by
  unfold Invocation.resolve at h
  split at h
  · cases h
  · next signature hsignature =>
    obtain ⟨⟨⟩, hcheck, h⟩ := bind_eq_ok.1 h
    obtain ⟨parameters, hparameters, h⟩ := bind_eq_ok.1 h
    cases h
    exact ⟨rfl, signature, hsignature, hcheck, hparameters⟩

end Axial
