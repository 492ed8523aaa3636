import Axial.Proofs.Reading

/-!
# The arity of queries

A tree is read as a query of one arity at most, and the operators at its root tell which: reading a
query of any arity gives what the reader of the one fitting arity gives.

* `ScalarQuery.hasArity_of_ofExpr`, `VectorQuery.hasArity_of_ofExpr`,
  `MatrixQuery.hasArity_of_ofExpr` : what is read at an arity has it by the operators at its root.
* `Query.IsReadFrom` : a query is what the reader of its own arity makes of a tree.
* `Query.parse_of_arity` : the query of a text is the one that its only fitting arity reads.

The reader of any arity looks at the root alone and counts axes and reductions, while the readers
of a given arity go down the whole tree. They agree because an axis with filters and an axis with
an entry never have the same operator at their roots.
-/

namespace Axial

variable {e : Expr} {registry : Registry}

/-! ### Lookups -/

/-- An entry is told by the `=` at its root. -/
theorem AxisEntry.exists_of_ofExpr {entry : AxisEntry} (h : AxisEntry.ofExpr e = .ok entry) :
    ∃ p l r, e = .binary (.compare .equal) p l r := by
  unfold AxisEntry.ofExpr at h
  split at h
  · exact ⟨_, _, _, rfl⟩
  · cases h

/-- An axis is a name, or has a combinator at its root. -/
theorem FilteredAxis.exists_of_ofExpr {axis : FilteredAxis}
    (h : FilteredAxis.ofExpr e = .ok axis) :
    (∃ name p, e = .operand name p) ∨ ∃ c p l r, e = .binary (.combine c) p l r := by
  unfold FilteredAxis.ofExpr at h
  split at h
  · exact .inl ⟨_, _, rfl⟩
  · exact .inr ⟨_, _, _, _, rfl⟩
  · cases h

theorem AxisEntry.isEntry_of_ofExpr {entry : AxisEntry} (h : AxisEntry.ofExpr e = .ok entry) :
    e.isEntry = true := by
  obtain ⟨p, l, r, rfl⟩ := AxisEntry.exists_of_ofExpr h
  rfl

theorem FilteredAxis.isEntry_of_ofExpr {axis : FilteredAxis}
    (h : FilteredAxis.ofExpr e = .ok axis) : e.isEntry = false := by
  obtain ⟨name, p, rfl⟩ | ⟨c, p, l, r, rfl⟩ := FilteredAxis.exists_of_ofExpr h <;> rfl

theorem ScalarLookup.lookupArity_of_ofExpr {lookup : ScalarLookup}
    (h : ScalarLookup.ofExpr e = .ok lookup) : lookupArity e = .ok 0 := by
  unfold ScalarLookup.ofExpr at h
  split at h
  · rfl
  · obtain ⟨rows, hrows, h⟩ := bind_eq_ok.1 h
    obtain ⟨columns, hcolumns, h⟩ := bind_eq_ok.1 h
    rw [lookupArity, AxisEntry.isEntry_of_ofExpr hrows, AxisEntry.isEntry_of_ofExpr hcolumns]
    rfl
  · obtain ⟨entry, hentry, h⟩ := bind_eq_ok.1 h
    obtain ⟨p, l, r, rfl⟩ := AxisEntry.exists_of_ofExpr hentry
    rfl
  · cases h

theorem VectorLookup.lookupArity_of_ofExpr {lookup : VectorLookup}
    (h : VectorLookup.ofExpr e = .ok lookup) : lookupArity e = .ok 1 := by
  unfold VectorLookup.ofExpr at h
  split at h
  · next left right property =>
    obtain ⟨axis, haxis, h⟩ := bind_eq_ok.1 h
    obtain ⟨entry, hentry, h⟩ := bind_eq_ok.1 h
    -- whichever of the two stands first, one is an entry and the other one is not
    cases hswap : left.isEntry && !right.isEntry with
    | false =>
      rw [hswap] at haxis hentry
      have hleft : left.isEntry = false := FilteredAxis.isEntry_of_ofExpr haxis
      have hright : right.isEntry = true := AxisEntry.isEntry_of_ofExpr hentry
      rw [lookupArity, hleft, hright]
      rfl
    | true =>
      rw [hswap] at haxis hentry
      have hleft : left.isEntry = true := AxisEntry.isEntry_of_ofExpr hentry
      have hright : right.isEntry = false := FilteredAxis.isEntry_of_ofExpr haxis
      rw [lookupArity, hleft, hright]
      rfl
  · obtain ⟨axis, haxis, h⟩ := bind_eq_ok.1 h
    obtain ⟨name, p, rfl⟩ | ⟨c, p, l, r, rfl⟩ := FilteredAxis.exists_of_ofExpr haxis <;> rfl
  · cases h

theorem MatrixLookup.lookupArity_of_ofExpr {lookup : MatrixLookup}
    (h : MatrixLookup.ofExpr e = .ok lookup) : lookupArity e = .ok 2 := by
  unfold MatrixLookup.ofExpr at h
  split at h
  · obtain ⟨rows, hrows, h⟩ := bind_eq_ok.1 h
    obtain ⟨columns, hcolumns, h⟩ := bind_eq_ok.1 h
    rw [lookupArity, FilteredAxis.isEntry_of_ofExpr hrows, FilteredAxis.isEntry_of_ofExpr hcolumns]
    rfl
  · cases h
  · cases h

/-! ### Queries of a given arity -/

theorem Expr.binds_of_ne_reduce (h : ∀ p l r, e ≠ .binary .reduce p l r) : e.Binds 1 := by
  cases e with
  | binary op p l r =>
    refine binds_binary.2 ?_
    cases op with
    | reduce => exact absurd rfl (h p l r)
    | _ => simp [Operator.level]
  | operand name p => exact binds_operand name
  | inverted p inner => exact binds_inverted

theorem base_of_stageOfExpr {base : Expr} {eltwise : List Invocation}
    (h : stageOfExpr registry e = .ok (base, eltwise)) : base = e.withoutEltwise := by
  unfold stageOfExpr at h
  split at h
  · obtain ⟨operations, -, h⟩ := bind_eq_ok.1 h
    cases h
    rfl
  · next hne =>
    cases h
    unfold Expr.withoutEltwise
    split
    · exact absurd rfl (hne _ _ _)
    · rfl

theorem MatrixQuery.hasArity_of_ofExpr {query : MatrixQuery}
    (h : MatrixQuery.ofExpr registry e = .ok query) : e.HasArity 2 := by
  unfold MatrixQuery.ofExpr at h
  split at h
  · cases h
  · next hne =>
    obtain ⟨⟨base, eltwise⟩, hstage, h⟩ := bind_eq_ok.1 h
    obtain ⟨lookup, hlookup, h⟩ := bind_eq_ok.1 h
    obtain rfl := base_of_stageOfExpr hstage
    exact .of_binds (Expr.binds_of_ne_reduce hne) (MatrixLookup.lookupArity_of_ofExpr hlookup)

theorem VectorQuery.hasArity_of_ofExpr {query : VectorQuery}
    (h : VectorQuery.ofExpr registry e = .ok query) : e.HasArity 1 := by
  unfold VectorQuery.ofExpr at h
  split at h
  · obtain ⟨matrix, hmatrix, h⟩ := bind_eq_ok.1 h
    exact (MatrixQuery.hasArity_of_ofExpr hmatrix).reduce
  · next hne =>
    obtain ⟨⟨base, eltwise⟩, hstage, h⟩ := bind_eq_ok.1 h
    obtain ⟨lookup, hlookup, h⟩ := bind_eq_ok.1 h
    obtain rfl := base_of_stageOfExpr hstage
    exact .of_binds (Expr.binds_of_ne_reduce hne) (VectorLookup.lookupArity_of_ofExpr hlookup)

theorem ScalarQuery.hasArity_of_ofExpr {query : ScalarQuery}
    (h : ScalarQuery.ofExpr registry e = .ok query) : e.HasArity 0 := by
  unfold ScalarQuery.ofExpr at h
  split at h
  · obtain ⟨vector, hvector, h⟩ := bind_eq_ok.1 h
    exact (VectorQuery.hasArity_of_ofExpr hvector).reduce
  · next hne =>
    obtain ⟨⟨base, eltwise⟩, hstage, h⟩ := bind_eq_ok.1 h
    obtain ⟨lookup, hlookup, h⟩ := bind_eq_ok.1 h
    obtain rfl := base_of_stageOfExpr hstage
    exact .of_binds (Expr.binds_of_ne_reduce hne) (ScalarLookup.lookupArity_of_ofExpr hlookup)

/-! ### Queries of any arity -/

namespace Query

/-- A query is what the reader of its own arity makes of a tree. -/
def IsReadFrom (registry : Registry) (e : Expr) : Query → Prop
  | .scalar query => ScalarQuery.ofExpr registry e = .ok query
  | .vector query => VectorQuery.ofExpr registry e = .ok query
  | .matrix query => MatrixQuery.ofExpr registry e = .ok query

/-- Reading a query of any arity is reading one of its own arity. -/
theorem ofExpr_eq_ok_iff {query : Query} :
    Query.ofExpr registry e = .ok query ↔ query.IsReadFrom registry e := by
  constructor
  · intro h
    obtain ⟨arity, -, h⟩ := bind_eq_ok.1 h
    split at h
    · cases h
    · split at h <;>
        (obtain ⟨typed, htyped, h⟩ := bind_eq_ok.1 h
         cases h
         exact htyped)
  · intro h
    cases query with
    | scalar query => rw [ofExpr_of_hasArity (ScalarQuery.hasArity_of_ofExpr h), h]; rfl
    | vector query => rw [ofExpr_of_hasArity (VectorQuery.hasArity_of_ofExpr h), h]; rfl
    | matrix query => rw [ofExpr_of_hasArity (MatrixQuery.hasArity_of_ofExpr h), h]; rfl

end Query

/-- **The arity of a text is told exactly.** The parser of any arity gives a query of an arity
exactly if the parser of that arity gives it; it succeeds exactly if one of the three does; and no
two of them accept the same text. -/
theorem Query.parse_of_arity (registry : Registry) (text : String) :
    (∀ query, Query.parse registry text = .ok (.scalar query) ↔
        ScalarQuery.parse registry text = .ok query) ∧
      (∀ query, Query.parse registry text = .ok (.vector query) ↔
        VectorQuery.parse registry text = .ok query) ∧
      (∀ query, Query.parse registry text = .ok (.matrix query) ↔
        MatrixQuery.parse registry text = .ok query) ∧
      ((∃ query, Query.parse registry text = .ok query) ↔
        (∃ query, ScalarQuery.parse registry text = .ok query) ∨
          (∃ query, VectorQuery.parse registry text = .ok query) ∨
            ∃ query, MatrixQuery.parse registry text = .ok query) ∧
      (∀ scalar vector, ScalarQuery.parse registry text = .ok scalar →
        VectorQuery.parse registry text ≠ .ok vector) ∧
      (∀ scalar matrix, ScalarQuery.parse registry text = .ok scalar →
        MatrixQuery.parse registry text ≠ .ok matrix) ∧
      ∀ vector matrix, VectorQuery.parse registry text = .ok vector →
        MatrixQuery.parse registry text ≠ .ok matrix := by
  have hread : ∀ query : Query, Query.parse registry text = .ok query ↔
      ∃ expr cleaned, Expr.parse text = .ok (expr, cleaned) ∧ query.IsReadFrom registry expr :=
    fun query => by simp only [parse_eq_ok, ofExpr_eq_ok_iff]
  have hscalar : ∀ query, Query.parse registry text = .ok (.scalar query) ↔
      ScalarQuery.parse registry text = .ok query :=
    fun query => (hread (.scalar query)).trans parseWith_eq_ok.symm
  have hvector : ∀ query, Query.parse registry text = .ok (.vector query) ↔
      VectorQuery.parse registry text = .ok query :=
    fun query => (hread (.vector query)).trans parseWith_eq_ok.symm
  have hmatrix : ∀ query, Query.parse registry text = .ok (.matrix query) ↔
      MatrixQuery.parse registry text = .ok query :=
    fun query => (hread (.matrix query)).trans parseWith_eq_ok.symm
  -- two arities at once would be two results of one parser
  have hunique : ∀ {query other : Query}, Query.parse registry text = .ok query →
      Query.parse registry text = .ok other → query = other :=
    fun h h' => Except.ok.inj (h.symm.trans h')
  refine ⟨hscalar, hvector, hmatrix, ⟨?_, ?_⟩, ?_, ?_, ?_⟩
  · rintro ⟨query, h⟩
    cases query with
    | scalar query => exact .inl ⟨query, (hscalar query).1 h⟩
    | vector query => exact .inr (.inl ⟨query, (hvector query).1 h⟩)
    | matrix query => exact .inr (.inr ⟨query, (hmatrix query).1 h⟩)
  · rintro (⟨query, h⟩ | ⟨query, h⟩ | ⟨query, h⟩)
    · exact ⟨_, (hscalar query).2 h⟩
    · exact ⟨_, (hvector query).2 h⟩
    · exact ⟨_, (hmatrix query).2 h⟩
  · intro scalar vector hs hv
    cases hunique ((hscalar scalar).2 hs) ((hvector vector).2 hv)
  · intro scalar matrix hs hm
    cases hunique ((hscalar scalar).2 hs) ((hmatrix matrix).2 hm)
  · intro vector matrix hv hm
    cases hunique ((hvector vector).2 hv) ((hmatrix matrix).2 hm)

end Axial
