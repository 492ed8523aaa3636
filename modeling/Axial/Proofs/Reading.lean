import Axial.Proofs.CanonicalQuery
import Axial.Proofs.QueryTree

/-!
# Reading the trees of queries

The tree of a query, with any offsets, is read as the canonical query again. Each part is read
where its tree stands; which part a reader sees is told by how tightly the root of the tree binds.

* `X.ofExpr_tree` : a part is read from its tree, for each kind `X` of parts.
* `Query.ofExpr_tree` : a query is read from its tree, at its own arity.
-/

namespace Axial

variable {e : Expr}

/-! ### What the root of a tree rules out -/

section Binds

variable {registry : Registry} {kind : OperationKind}

theorem AxisFilter.listOfExpr_of_binds (combinator : Combinator) (h : e.Binds 5) :
    listOfExpr combinator e = return [⟨combinator, ← AxisLookup.ofExpr e⟩] := by
  unfold listOfExpr
  split
  · exact absurd (Expr.binds_binary.1 h) (by decide : ¬ 5 ≤ 4)
  · rfl

theorem eltwiseOfExpr_of_binds (h : e.Binds 2) :
    eltwiseOfExpr registry e = return [← Invocation.ofExpr registry .eltwise e] := by
  unfold eltwiseOfExpr
  split
  · exact absurd (Expr.binds_binary.1 h) (by decide)
  · rfl

theorem stageOfExpr_of_binds (h : e.Binds 2) : stageOfExpr registry e = .ok (e, []) := by
  unfold stageOfExpr
  split
  · exact absurd (Expr.binds_binary.1 h) (by decide)
  · rfl

theorem reductionOfExpr_of_binds (h : e.Binds 2) :
    reductionOfExpr registry e = return (← Invocation.ofExpr registry .reduction e, []) := by
  unfold reductionOfExpr
  split
  · exact absurd (Expr.binds_binary.1 h) (by decide)
  · rfl

theorem Expr.withoutEltwise_of_binds (h : e.Binds 2) : e.withoutEltwise = e := by
  unfold withoutEltwise
  split
  · exact absurd (binds_binary.1 h) (by decide)
  · rfl

theorem Expr.reductions_of_binds (h : e.Binds 1) : e.reductions = (0, e) := by
  unfold reductions
  split
  · exact absurd (binds_binary.1 h) (by decide)
  · rfl

end Binds

/-! ### Properties and axes -/

theorem PropertyChain.ofExpr_tree {chain : PropertyChain} (h : e.erase = chain.tree.erase) :
    PropertyChain.ofExpr e = .ok chain := by
  obtain ⟨first, rest⟩ := chain
  induction rest generalizing first e with
  | nil =>
    obtain ⟨p, rfl⟩ := Expr.exists_operand_of_erase_eq h
    rfl
  | cons next rest ih =>
    obtain ⟨p, l, r, rfl, hl, hr⟩ := Expr.exists_binary_of_erase_eq h
    obtain ⟨q, rfl⟩ := Expr.exists_operand_of_erase_eq hl
    rw [PropertyChain.ofExpr, ih next hr]
    rfl

theorem AxisLookup.ofExpr_tree {N : String → Prop} {lookup : AxisLookup} (hN : lookup.IsMadeOf N)
    (h : e.erase = lookup.tree.erase) : AxisLookup.ofExpr e = .ok lookup := by
  obtain ⟨property, test, inverted⟩ := lookup
  cases inverted with
  | true =>
    obtain rfl := hN.test_eq_none rfl
    obtain ⟨p, i, rfl, hi⟩ := Expr.exists_inverted_of_erase_eq h
    rw [AxisLookup.ofExpr, PropertyChain.ofExpr_tree hi]
    rfl
  | false =>
    cases test with
    | none =>
      -- a chain binds more tightly than a comparison
      have hproperty : PropertyChain.ofExpr e = .ok property := PropertyChain.ofExpr_tree h
      have hbinds : e.Binds 6 := (Expr.binds_of_erase_eq h).2 property.fits_tree.binds
      unfold AxisLookup.ofExpr
      split
      · cases hproperty
      · exact absurd (Expr.binds_binary.1 hbinds) (by decide : ¬ 6 ≤ 5)
      · rw [hproperty]
        rfl
    | some test =>
      obtain ⟨p, l, r, rfl, hl, hr⟩ := Expr.exists_binary_of_erase_eq h
      obtain ⟨q, rfl⟩ := Expr.exists_operand_of_erase_eq hr
      rw [AxisLookup.ofExpr, PropertyChain.ofExpr_tree hl]
      rfl

theorem AxisFilter.listOfExpr_tree {N : String → Prop} {filter : AxisFilter}
    {more : List AxisFilter} (hN : ∀ f ∈ filter :: more, f.lookup.IsMadeOf N)
    (h : e.erase = (Expr.joined filter.lookup.tree (more.map AxisFilter.pair)).erase) :
    AxisFilter.listOfExpr filter.combinator e = .ok (filter :: more) := by
  induction more generalizing filter e with
  | nil =>
    have hlookup := hN filter List.mem_cons_self
    have hbinds : e.Binds 5 := (Expr.binds_of_erase_eq h).2 filter.lookup.fits_tree.binds
    rw [listOfExpr_of_binds _ hbinds, AxisLookup.ofExpr_tree hlookup h]
    rfl
  | cons next more ih =>
    obtain ⟨hlookup, hmore⟩ := List.forall_mem_cons.1 hN
    obtain ⟨p, l, r, rfl, hl, hr⟩ := Expr.exists_binary_of_erase_eq h
    rw [listOfExpr, AxisLookup.ofExpr_tree hlookup hl, ih hmore hr]
    rfl

theorem FilteredAxis.ofExpr_tree {N : String → Prop} {filtered : FilteredAxis}
    (hN : filtered.IsMadeOf N) (h : e.erase = filtered.tree.erase) :
    FilteredAxis.ofExpr e = .ok (filtered.map sortRuns) := by
  have hfilters : ∀ f ∈ sortRuns filtered.filters, f.lookup.IsMadeOf N :=
    fun f hf => hN.filters f (mem_sortRuns.1 hf)
  unfold tree at h
  unfold map
  generalize sortRuns filtered.filters = filters at h hfilters ⊢
  cases filters with
  | nil =>
    obtain ⟨p, rfl⟩ := Expr.exists_operand_of_erase_eq h
    rfl
  | cons filter more =>
    obtain ⟨p, l, r, rfl, hl, hr⟩ := Expr.exists_binary_of_erase_eq h
    obtain ⟨q, rfl⟩ := Expr.exists_operand_of_erase_eq hl
    rw [FilteredAxis.ofExpr, AxisFilter.listOfExpr_tree hfilters hr]
    rfl

theorem AxisEntry.ofExpr_tree {entry : AxisEntry} (h : e.erase = entry.tree.erase) :
    AxisEntry.ofExpr e = .ok entry ∧ e.isEntry = true := by
  obtain ⟨p, l, r, rfl, hl, hr⟩ := Expr.exists_binary_of_erase_eq h
  obtain ⟨q, rfl⟩ := Expr.exists_operand_of_erase_eq hl
  obtain ⟨q', rfl⟩ := Expr.exists_operand_of_erase_eq hr
  exact ⟨rfl, rfl⟩

/-- The tree of an axis is not taken for an entry. -/
theorem FilteredAxis.isEntry_of_erase_eq {filtered : FilteredAxis}
    (h : e.erase = filtered.tree.erase) : e.isEntry = false := by
  unfold tree at h
  cases hfilters : sortRuns filtered.filters with
  | nil =>
    rw [hfilters] at h
    obtain ⟨p, rfl⟩ := Expr.exists_operand_of_erase_eq h
    rfl
  | cons filter more =>
    rw [hfilters] at h
    obtain ⟨p, l, r, rfl, -, -⟩ := Expr.exists_binary_of_erase_eq h
    rfl

/-! ### Operations -/

section Operations

variable {registry : Registry} {kind : OperationKind} (hregistry : registry.Coherent)

theorem Assignment.ofExpr_assigned {name value : String}
    (h : e.erase = (Expr.assigned name value).erase) :
    ∃ p q q', e = .binary (.compare .equal) p (.operand name q) (.operand value q') := by
  obtain ⟨p, l, r, rfl, hl, hr⟩ := Expr.exists_binary_of_erase_eq h
  obtain ⟨q, rfl⟩ := Expr.exists_operand_of_erase_eq hl
  obtain ⟨q', rfl⟩ := Expr.exists_operand_of_erase_eq hr
  exact ⟨p, q, q', rfl⟩

theorem Assignment.listOfExpr_tree {name literal : String} {more : List Assignment}
    (h : e.erase = (Expr.joined (.assigned name literal)
      (Assignment.pairsAfter .comma more)).erase) :
    Assignment.listOfExpr e = .ok ((name, literal) :: more) := by
  induction more generalizing name literal e with
  | nil =>
    obtain ⟨p, q, q', rfl⟩ := Assignment.ofExpr_assigned h
    rfl
  | cons assignment more ih =>
    obtain ⟨p, l, r, rfl, hl, hr⟩ := Expr.exists_binary_of_erase_eq h
    obtain ⟨q, s, s', rfl⟩ := Assignment.ofExpr_assigned hl
    rw [listOfExpr, ih hr]
    rfl

/-- An operation with assignments is read as its name and these assignments. -/
theorem Invocation.ofExpr_joined {operation : String} {assignments : List Assignment}
    (h : e.erase = (Expr.joined (.operand operation 0)
      (Assignment.pairsAfter .semicolon assignments)).erase) :
    Invocation.ofExpr registry kind e = resolve registry kind operation assignments := by
  cases assignments with
  | nil =>
    obtain ⟨p, rfl⟩ := Expr.exists_operand_of_erase_eq h
    rfl
  | cons assignment more =>
    obtain ⟨p, l, r, rfl, hl, hr⟩ := Expr.exists_binary_of_erase_eq h
    obtain ⟨q, rfl⟩ := Expr.exists_operand_of_erase_eq hl
    rw [Invocation.ofExpr, Assignment.listOfExpr_tree hr]
    rfl

include hregistry

theorem Invocation.ofExpr_tree {invocation : Invocation}
    (hinvocation : invocation.WellFormed registry kind) (h : e.erase = invocation.tree.erase) :
    Invocation.ofExpr registry kind e = .ok invocation.plain := by
  rw [tree, Parameters.pairsAfter_eq] at h
  rw [← Invocation.resolve_texts hregistry hinvocation]
  exact ofExpr_joined h

theorem eltwiseOfExpr_tree {invocation : Invocation} {more : List Invocation}
    (heltwise : ∀ i ∈ invocation :: more, i.WellFormed registry .eltwise)
    (h : e.erase = (invocation.tree.withEltwise more).erase) :
    eltwiseOfExpr registry e = .ok ((invocation :: more).map Invocation.plain) := by
  induction more generalizing invocation e with
  | nil =>
    -- an operation binds more tightly than the `%` of one more
    have hbinds : e.Binds 3 := (Expr.binds_of_erase_eq h).2 invocation.fits_tree.binds
    have hfirst := Invocation.ofExpr_tree hregistry (heltwise invocation List.mem_cons_self) h
    rw [eltwiseOfExpr_of_binds (hbinds.mono (by decide)), hfirst]
    rfl
  | cons next more ih =>
    obtain ⟨hinvocation, hmore⟩ := List.forall_mem_cons.1 heltwise
    obtain ⟨p, l, r, rfl, hl, hr⟩ := Expr.exists_binary_of_erase_eq h
    rw [eltwiseOfExpr, Invocation.ofExpr_tree hregistry hinvocation hl, ih hmore hr]
    rfl

theorem stageOfExpr_tree {base : Expr} {eltwise : List Invocation} (hbase : base.Binds 2)
    (heltwise : ∀ i ∈ eltwise, i.WellFormed registry .eltwise)
    (h : e.erase = (base.withEltwise eltwise).erase) :
    stageOfExpr registry e = .ok (e.withoutEltwise, eltwise.map Invocation.plain) ∧
      e.withoutEltwise.erase = base.erase := by
  cases eltwise with
  | nil =>
    have hbinds : e.Binds 2 := (Expr.binds_of_erase_eq h).2 hbase
    rw [stageOfExpr_of_binds hbinds, Expr.withoutEltwise_of_binds hbinds]
    exact ⟨rfl, h⟩
  | cons invocation more =>
    obtain ⟨p, l, r, rfl, hl, hr⟩ := Expr.exists_binary_of_erase_eq h
    rw [stageOfExpr, eltwiseOfExpr_tree hregistry heltwise hr]
    exact ⟨rfl, hl⟩

theorem reductionOfExpr_tree {reduction : Invocation} {eltwise : List Invocation}
    (hreduction : reduction.WellFormed registry .reduction)
    (heltwise : ∀ i ∈ eltwise, i.WellFormed registry .eltwise)
    (h : e.erase = (reduction.tree.withEltwise eltwise).erase) :
    reductionOfExpr registry e = .ok (reduction.plain, eltwise.map Invocation.plain) := by
  cases eltwise with
  | nil =>
    have hbinds : e.Binds 3 := (Expr.binds_of_erase_eq h).2 reduction.fits_tree.binds
    rw [reductionOfExpr_of_binds (hbinds.mono (by decide)),
      Invocation.ofExpr_tree hregistry hreduction h]
    rfl
  | cons invocation more =>
    obtain ⟨p, l, r, rfl, hl, hr⟩ := Expr.exists_binary_of_erase_eq h
    rw [reductionOfExpr, Invocation.ofExpr_tree hregistry hreduction hl,
      eltwiseOfExpr_tree hregistry heltwise hr]
    rfl

end Operations

/-! ### Lookups -/

section Lookups

variable {N : String → Prop}

theorem ScalarLookup.ofExpr_tree {lookup : ScalarLookup} (hN : lookup.IsMadeOf N)
    (h : e.erase = lookup.tree.erase) :
    ScalarLookup.ofExpr e = .ok lookup ∧ lookupArity e = .ok 0 := by
  cases lookup with
  | scalar name =>
    obtain ⟨p, rfl⟩ := Expr.exists_operand_of_erase_eq h
    exact ⟨rfl, rfl⟩
  | vectorEntry entry property =>
    obtain ⟨p, l, r, rfl, hl, hr⟩ := Expr.exists_binary_of_erase_eq h
    obtain ⟨hentry, -⟩ := AxisEntry.ofExpr_tree hl
    have hproperty := AxisLookup.ofExpr_tree hN.2 hr
    obtain ⟨q, s, s', rfl⟩ := Assignment.ofExpr_assigned hl
    refine ⟨?_, rfl⟩
    rw [ScalarLookup.ofExpr, hentry, hproperty]
    · rfl
    · exact nofun
  | matrixEntry rows columns name =>
    obtain ⟨p, l, r, rfl, hl, hr⟩ := Expr.exists_binary_of_erase_eq h
    obtain ⟨q, l, l', rfl, hrows, hcolumns⟩ := Expr.exists_binary_of_erase_eq hl
    obtain ⟨q', rfl⟩ := Expr.exists_operand_of_erase_eq hr
    obtain ⟨hrows, hleft⟩ := AxisEntry.ofExpr_tree hrows
    obtain ⟨hcolumns, hright⟩ := AxisEntry.ofExpr_tree hcolumns
    refine ⟨?_, ?_⟩
    · rw [ScalarLookup.ofExpr, hrows, hcolumns]
      rfl
    · rw [lookupArity, hleft, hright]
      rfl

theorem VectorLookup.ofExpr_tree {lookup : VectorLookup} (hN : lookup.IsMadeOf N)
    (h : e.erase = lookup.tree.erase) :
    VectorLookup.ofExpr e = .ok (lookup.map sortRuns) ∧ lookupArity e = .ok 1 := by
  cases lookup with
  | vector axis property =>
    obtain ⟨p, l, r, rfl, hl, hr⟩ := Expr.exists_binary_of_erase_eq h
    have haxis := FilteredAxis.ofExpr_tree hN.1 hl
    have hproperty := AxisLookup.ofExpr_tree hN.2 hr
    have hentry := FilteredAxis.isEntry_of_erase_eq hl
    have hbinds : l.Binds 4 := (Expr.binds_of_erase_eq hl).2 axis.fits_tree.binds
    -- an axis binds more tightly than the `,` of a matrix lookup
    have hcomma : ∀ q left right, l ≠ .binary .comma q left right := by
      rintro q left right rfl
      exact absurd (Expr.binds_binary.1 hbinds) (by decide)
    refine ⟨?_, ?_⟩
    · rw [VectorLookup.ofExpr, haxis, hproperty]
      · rfl
      · exact hcomma
    · unfold lookupArity
      dsimp only
      split
      · exact absurd (Expr.binds_binary.1 hbinds) (by decide)
      · exact absurd (Expr.binds_binary.1 hbinds) (by decide)
      · rw [hentry]
        rfl
  | matrixSlice axis entry name =>
    obtain ⟨p, l, r, rfl, hl, hr⟩ := Expr.exists_binary_of_erase_eq h
    obtain ⟨q, l, l', rfl, hleft, hright⟩ := Expr.exists_binary_of_erase_eq hl
    obtain ⟨q', rfl⟩ := Expr.exists_operand_of_erase_eq hr
    have haxis := FilteredAxis.ofExpr_tree hN.1 hleft
    have hleft := FilteredAxis.isEntry_of_erase_eq hleft
    obtain ⟨hentry, hright⟩ := AxisEntry.ofExpr_tree hright
    refine ⟨?_, ?_⟩
    · simp only [VectorLookup.ofExpr, hleft, hright, Bool.false_and, Bool.false_eq_true, if_false]
      rw [haxis, hentry]
      rfl
    · rw [lookupArity, hleft, hright]
      rfl

theorem MatrixLookup.ofExpr_tree {lookup : MatrixLookup} (hN : lookup.IsMadeOf N)
    (h : e.erase = lookup.tree.erase) :
    MatrixLookup.ofExpr e = .ok (lookup.map sortRuns) ∧ lookupArity e = .ok 2 := by
  obtain ⟨p, l, r, rfl, hl, hr⟩ := Expr.exists_binary_of_erase_eq h
  obtain ⟨q, l, l', rfl, hrows, hcolumns⟩ := Expr.exists_binary_of_erase_eq hl
  obtain ⟨q', rfl⟩ := Expr.exists_operand_of_erase_eq hr
  refine ⟨?_, ?_⟩
  · rw [MatrixLookup.ofExpr, FilteredAxis.ofExpr_tree hN.rows hrows,
      FilteredAxis.ofExpr_tree hN.columns hcolumns]
    rfl
  · rw [lookupArity, FilteredAxis.isEntry_of_erase_eq hrows,
      FilteredAxis.isEntry_of_erase_eq hcolumns]
    rfl

end Lookups

/-! ### Queries -/

section Queries

variable {registry : Registry} (hregistry : registry.Coherent)

/-- A query that a registry may have accepted: all its names can be written, no lookup is both
inverted and compared, and its operations are those of the registry. -/
def Query.WellFormed (registry : Registry) (query : Query) : Prop :=
  query.IsMadeOf Text.IsWritable (Invocation.WellFormed registry)

/-- The tree without its reductions has the axes of the arity and one more for each of them. -/
def Expr.HasArity (arity : Nat) (expr : Expr) : Prop :=
  lookupArity expr.reductions.2.withoutEltwise = .ok (expr.reductions.1 + arity)

theorem Expr.HasArity.of_binds {arity : Nat} (hbinds : e.Binds 1)
    (h : lookupArity e.withoutEltwise = .ok arity) : e.HasArity arity := by
  rw [HasArity, reductions_of_binds hbinds, Nat.zero_add]
  exact h

theorem Expr.HasArity.reduce {arity position : Nat} {stage : Expr} (h : e.HasArity (arity + 1)) :
    (binary .reduce position e stage).HasArity arity := by
  rw [HasArity, reductions]
  rw [HasArity, Nat.add_comm arity, ← Nat.add_assoc] at h
  exact h

include hregistry

theorem MatrixQuery.ofExpr_tree {query : MatrixQuery}
    (hquery : query.IsMadeOf Text.IsWritable (Invocation.WellFormed registry))
    (h : e.erase = query.tree.erase) :
    MatrixQuery.ofExpr registry e = .ok (query.map sortRuns Invocation.plain) ∧ e.HasArity 2 := by
  have hbinds : e.Binds 1 := (Expr.binds_of_erase_eq h).2 query.fits_tree.binds
  obtain ⟨hstage, hbase⟩ :=
    stageOfExpr_tree hregistry query.lookup.fits_tree.binds hquery.eltwise h
  obtain ⟨hlookup, harity⟩ := MatrixLookup.ofExpr_tree hquery.lookup hbase
  refine ⟨?_, .of_binds hbinds harity⟩
  unfold MatrixQuery.ofExpr
  split
  · exact absurd (Expr.binds_binary.1 hbinds) (by decide)
  · rw [hstage, ok_bind]
    dsimp only
    rw [hlookup]
    rfl

theorem VectorQuery.ofExpr_tree {query : VectorQuery}
    (hquery : query.IsMadeOf Text.IsWritable (Invocation.WellFormed registry))
    (h : e.erase = query.tree.erase) :
    VectorQuery.ofExpr registry e = .ok (query.map sortRuns Invocation.plain) ∧ e.HasArity 1 := by
  cases query with
  | lookup source eltwise =>
    have hbinds : e.Binds 1 := (Expr.binds_of_erase_eq h).2
      (Expr.fits_withEltwise source.fits_tree eltwise).binds
    obtain ⟨hstage, hbase⟩ := stageOfExpr_tree hregistry source.fits_tree.binds hquery.2 h
    obtain ⟨hlookup, harity⟩ := VectorLookup.ofExpr_tree hquery.1 hbase
    refine ⟨?_, .of_binds hbinds harity⟩
    unfold VectorQuery.ofExpr
    split
    · exact absurd (Expr.binds_binary.1 hbinds) (by decide)
    · rw [hstage, ok_bind]
      dsimp only
      rw [hlookup]
      rfl
  | reduced matrix reduction eltwise =>
    obtain ⟨hmatrix, hreduction, heltwise⟩ := hquery
    obtain ⟨p, l, r, rfl, hl, hr⟩ := Expr.exists_binary_of_erase_eq h
    obtain ⟨hinput, harity⟩ := MatrixQuery.ofExpr_tree hregistry hmatrix hl
    refine ⟨?_, .reduce harity⟩
    rw [VectorQuery.ofExpr, hinput, ok_bind,
      reductionOfExpr_tree hregistry hreduction heltwise hr]
    rfl

theorem ScalarQuery.ofExpr_tree {query : ScalarQuery}
    (hquery : query.IsMadeOf Text.IsWritable (Invocation.WellFormed registry))
    (h : e.erase = query.tree.erase) :
    ScalarQuery.ofExpr registry e = .ok (query.map sortRuns Invocation.plain) ∧ e.HasArity 0 := by
  cases query with
  | lookup source eltwise =>
    have hbinds : e.Binds 1 := (Expr.binds_of_erase_eq h).2
      (Expr.fits_withEltwise source.fits_tree eltwise).binds
    obtain ⟨hstage, hbase⟩ := stageOfExpr_tree hregistry source.fits_tree.binds hquery.2 h
    obtain ⟨hlookup, harity⟩ := ScalarLookup.ofExpr_tree hquery.1 hbase
    refine ⟨?_, .of_binds hbinds harity⟩
    unfold ScalarQuery.ofExpr
    split
    · exact absurd (Expr.binds_binary.1 hbinds) (by decide)
    · rw [hstage, ok_bind]
      dsimp only
      rw [hlookup]
      rfl
  | reduced vector reduction eltwise =>
    obtain ⟨hvector, hreduction, heltwise⟩ := hquery
    obtain ⟨p, l, r, rfl, hl, hr⟩ := Expr.exists_binary_of_erase_eq h
    obtain ⟨hinput, harity⟩ := VectorQuery.ofExpr_tree hregistry hvector hl
    refine ⟨?_, .reduce harity⟩
    rw [ScalarQuery.ofExpr, hinput, ok_bind,
      reductionOfExpr_tree hregistry hreduction heltwise hr]
    rfl

omit hregistry in
theorem Query.ofExpr_of_hasArity {arity : Nat} (h : e.HasArity arity) :
    Query.ofExpr registry e =
      match arity with
      | 0 => return .scalar (← ScalarQuery.ofExpr registry e)
      | 1 => return .vector (← VectorQuery.ofExpr registry e)
      | _ => return .matrix (← MatrixQuery.ofExpr registry e) := by
  have hnot : ¬ e.reductions.1 + arity < e.reductions.1 := by omega
  simp only [Query.ofExpr]
  rw [h, ok_bind, if_neg hnot, Nat.add_sub_cancel_left]
  rcases arity with _ | _ | arity <;> rfl

/-- The tree of a query is read as the canonical query. -/
theorem Query.ofExpr_tree {query : Query} (hquery : query.WellFormed registry)
    (h : e.erase = query.tree.erase) : Query.ofExpr registry e = .ok query.canonical := by
  cases query with
  | scalar query =>
    obtain ⟨hread, harity⟩ := ScalarQuery.ofExpr_tree hregistry hquery h
    rw [ofExpr_of_hasArity harity, hread]
    rfl
  | vector query =>
    obtain ⟨hread, harity⟩ := VectorQuery.ofExpr_tree hregistry hquery h
    rw [ofExpr_of_hasArity harity, hread]
    rfl
  | matrix query =>
    obtain ⟨hread, harity⟩ := MatrixQuery.ofExpr_tree hregistry hquery h
    rw [ofExpr_of_hasArity harity, hread]
    rfl

end Queries

end Axial
