import Axial.Proofs.Grouping
import Axial.Proofs.Parts
import Axial.Proofs.Runs
import Axial.Proofs.Layout

/-!
# The trees of queries

Every query has a tree whose tokens are its canonical form. Each operator of the tree binds as the
place where it stands asks, so that the tree is grouped and the canonical form is parsed into it.

* `Expr.erase` : a tree without the offsets of its tokens.
* `Expr.parse_text` : a grouped tree is parsed again, but for the offsets, from its text.
* `Expr.Fits` : a tree binds and closes as an operand of an operator of the level below must.
* `Query.tree`, and likewise for every part of a query.
-/

namespace Axial

namespace Expr

/-! ### Trees without offsets -/

/-- A tree whose tokens all have the offset zero. -/
def erase : Expr → Expr
  | operand value _ => operand value 0
  | binary op _ left right => binary op 0 left.erase right.erase
  | inverted _ inner => inverted 0 inner.erase

variable {expr tree left right inner : Expr} {op : Operator} {level position : Nat}

@[simp] theorem root?_erase (expr : Expr) : expr.erase.root? = expr.root? := by
  cases expr <;> rfl

theorem binds_of_erase_eq (h : expr.erase = tree.erase) : expr.Binds level ↔ tree.Binds level := by
  rw [Binds, Binds, ← root?_erase expr, h, root?_erase]

@[simp] theorem endsInverted_erase : expr.erase.EndsInverted ↔ expr.EndsInverted := by
  induction expr with
  | operand value position => exact Iff.rfl
  | binary op position left right _ ih => exact ih
  | inverted position inner _ => exact Iff.rfl

theorem IsGrouped.erase (h : expr.IsGrouped) : expr.erase.IsGrouped := by
  induction expr with
  | operand value position => trivial
  | binary op position left right ihl ihr =>
    obtain ⟨hl, hr, hleft, hright, hinverted⟩ := h
    exact ⟨ihl hl, ihr hr, by simpa using hleft, by simpa using hright, by simpa using hinverted⟩
  | inverted position inner ih => exact ⟨ih h.1, by simpa using h.2⟩

theorem lexemes_erase (expr : Expr) : expr.erase.lexemes = expr.tokens.map (⟨·, 0⟩) := by
  induction expr with
  | operand value position => rfl
  | binary op position left right ihl ihr => simp [Expr.erase, lexemes, tokens, ihl, ihr]
  | inverted position inner ih => simp [Expr.erase, lexemes, tokens, ih]

/-- Grouped trees with the same tokens differ in offsets only. -/
theorem erase_eq_of_tokens_eq (hexpr : expr.IsGrouped) (htree : tree.IsGrouped)
    (h : expr.tokens = tree.tokens) : expr.erase = tree.erase :=
  eq_of_lexemes_eq htree.erase hexpr.erase (by rw [lexemes_erase, lexemes_erase, h])

theorem exists_operand_of_erase_eq {value : String}
    (h : expr.erase = (operand value position).erase) : ∃ p, expr = operand value p := by
  cases expr with
  | operand other p =>
    cases h
    exact ⟨p, rfl⟩
  | _ => cases h

theorem exists_binary_of_erase_eq (h : expr.erase = (binary op position left right).erase) :
    ∃ p l r, expr = binary op p l r ∧ l.erase = left.erase ∧ r.erase = right.erase := by
  cases expr with
  | binary op' p l r =>
    obtain ⟨rfl, -, hl, hr⟩ := Expr.binary.inj h
    exact ⟨p, l, r, rfl, hl, hr⟩
  | _ => cases h

theorem exists_inverted_of_erase_eq (h : expr.erase = (inverted position inner).erase) :
    ∃ p i, expr = inverted p i ∧ i.erase = inner.erase := by
  cases expr with
  | inverted p i => exact ⟨p, i, rfl, (Expr.inverted.inj h).2⟩
  | _ => cases h

/-- A grouped tree is parsed again from its text, but for the offsets. -/
theorem parse_text (h : expr.IsGrouped) (hwritable : ∀ token ∈ expr.tokens, token.IsWritable) :
    ∃ parsed cleaned, parse expr.text = .ok (parsed, cleaned) ∧ parsed.erase = expr.erase := by
  have hscan := Token.scan_line hwritable
  have hclean : Text.clean expr.text = Token.line expr.tokens := Token.clean_line hwritable
  have htokens : (scan (Text.clean expr.text)).lexemes.map Lexeme.token = expr.tokens := by
    rw [hclean, hscan, Token.map_token_lexemesFrom]
  have hend : (scan (Text.clean expr.text)).ending =
      .complete (Token.line expr.tokens).toList.length := by
    rw [hclean, hscan]
  -- what is parsed has the tokens of the tree, and these leave one way to group them
  obtain ⟨parsed, hparsed⟩ := exists_parseLexemes hend (htokens ▸ isRow_tokens expr)
  obtain ⟨hlexemes, hgrouped⟩ := lexemes_of_parseLexemes hparsed
  refine ⟨parsed, _, parse_eq_ok.2 ⟨hparsed, rfl⟩, erase_eq_of_tokens_eq hgrouped h ?_⟩
  rw [← map_token_lexemes, hlexemes, htokens]

/-! ### Trees as operands -/

/-- A tree that may stand on either side of an operator of the level below. -/
structure Fits (level : Nat) (expr : Expr) : Prop where
  grouped : expr.IsGrouped
  binds : expr.Binds level
  closes : ∀ lower < level, expr.Closes lower

theorem Fits.mono {lower : Nat} (h : expr.Fits level) (hle : lower ≤ level) : expr.Fits lower :=
  ⟨h.grouped, h.binds.mono hle, fun other hlt => h.closes other (Nat.lt_of_lt_of_le hlt hle)⟩

theorem fits_operand (value : String) : (operand value position).Fits level :=
  ⟨trivial, binds_operand value, fun _ _ => trivial⟩

theorem fits_inverted (h : inner.Fits 5) : (inverted position inner).Fits 5 :=
  ⟨⟨h.grouped, h.binds⟩, binds_inverted, fun lower hlt => ⟨hlt, h.closes lower hlt⟩⟩

/-- Operators that group to the right take a tree of their own level on the right only. -/
theorem fits_binary (op : Operator) (hop : op.level = level) (hpos : 0 < level)
    (hleft : left.Fits (level + 1)) (hright : right.Fits level) :
    (binary op position left right).Fits level := by
  subst hop
  -- only the level of the reductions groups to the left
  have hlevel : op.rightLevel = op.level := by
    have hnot : ¬ op.isLeftAssociative = true := fun h => by
      rw [isLeftAssociative_iff.1 h] at hpos
      exact Nat.lt_irrefl 0 hpos
    rw [Operator.rightLevel, if_neg hnot]
  refine ⟨?_, binds_binary.2 (Nat.le_refl _), fun lower hlt =>
    ⟨hlevel ▸ hlt, hright.closes lower hlt⟩⟩
  exact isGrouped_binary.2 ⟨hleft.grouped, hright.grouped,
    hleft.closes op.level (Nat.lt_succ_self _), hlevel ▸ hright.binds⟩

/-- Reductions group to the left. -/
theorem isGrouped_reduce (hleft : left.IsGrouped) (hcloses : left.Closes 0)
    (hright : right.Fits 1) :
    (binary .reduce position left right).IsGrouped ∧
      (binary .reduce position left right).Closes 0 :=
  ⟨isGrouped_binary.2 ⟨hleft, hright.grouped, hcloses, hright.binds⟩, Nat.zero_lt_one,
    hright.closes 0 Nat.zero_lt_one⟩

/-- A tree followed by further ones, each after its operator, grouped to the right. -/
def joined (first : Expr) : List (Operator × Expr) → Expr
  | [] => first
  | (op, next) :: more => binary op 0 first (joined next more)

theorem tokens_joined (first : Expr) (more : List (Operator × Expr)) :
    (joined first more).tokens =
      first.tokens ++ more.flatMap fun pair => .operator pair.1 :: pair.2.tokens := by
  induction more generalizing first with
  | nil => simp [joined]
  | cons pair more ih => simp [joined, tokens, ih]

theorem fits_joined {first : Expr} {more : List (Operator × Expr)} (hlevel : 0 < level)
    (hfirst : first.Fits (level + 1))
    (hmore : ∀ pair ∈ more, pair.1.level = level ∧ pair.2.Fits (level + 1)) :
    (joined first more).Fits level := by
  induction more generalizing first with
  | nil => exact hfirst.mono (Nat.le_succ level)
  | cons pair more ih =>
    obtain ⟨op, next⟩ := pair
    obtain ⟨⟨rfl, hnext⟩, hmore⟩ := List.forall_mem_cons.1 hmore
    exact fits_binary op rfl hlevel hfirst (ih hnext hmore)

end Expr

/-! ### Trees of the parts -/

/-- The tree of a chain. -/
def PropertyChain.tree (chain : PropertyChain) : Expr :=
  .joined (.operand chain.first 0) (chain.rest.map fun name => (.chain, .operand name 0))

/-- The tree of a lookup. -/
def AxisLookup.tree (lookup : AxisLookup) : Expr :=
  if lookup.inverted then .inverted 0 lookup.property.tree
  else
    match lookup.test with
    | none => lookup.property.tree
    | some test =>
      .binary (.compare test.comparison) 0 lookup.property.tree (.operand test.literal 0)

/-- The tree of a filter after its combinator. -/
def AxisFilter.pair (filter : AxisFilter) : Operator × Expr :=
  (.combine filter.combinator, filter.lookup.tree)

/-- The tree of an axis and its sorted filters. -/
def FilteredAxis.tree (axis : FilteredAxis) : Expr :=
  .joined (.operand axis.axis 0) ((sortRuns axis.filters).map AxisFilter.pair)

/-- The tree of an assignment, be it of an entry to an axis or of a literal to a parameter. -/
def Expr.assigned (name value : String) : Expr :=
  .binary (.compare .equal) 0 (.operand name 0) (.operand value 0)

/-- The tree of an entry. -/
def AxisEntry.tree (entry : AxisEntry) : Expr :=
  .assigned entry.axis entry.entry

/-- The tokens of assignments after the separator of the first one. -/
def Assignment.tokensAfter (separator : Operator) : List Assignment → List Token
  | [] => []
  | (name, literal) :: more =>
    separator.token :: .operand name :: (Operator.compare .equal).token :: .operand literal
      :: tokensAfter .comma more

/-- The trees of assignments after the separator of the first one. -/
def Assignment.pairsAfter (separator : Operator) : List Assignment → List (Operator × Expr)
  | [] => []
  | (name, literal) :: more => (separator, .assigned name literal) :: pairsAfter .comma more

/-- The trees of parameters after the separator of the first one. -/
def Parameters.pairsAfter (separator : Operator) : Parameters → List (Operator × Expr)
  | [] => []
  | (name, value) :: more => (separator, .assigned name value.text) :: pairsAfter .comma more

/-- The tree of an operation. -/
def Invocation.tree (invocation : Invocation) : Expr :=
  .joined (.operand invocation.name 0) (invocation.parameters.pairsAfter .semicolon)

/-- The tree of an element-wise operation after its operator. -/
def Invocation.eltwisePair (invocation : Invocation) : Operator × Expr :=
  (.eltwise, invocation.tree)

/-- A tree with element-wise operations after it. -/
def Expr.withEltwise (base : Expr) (eltwise : List Invocation) : Expr :=
  .joined base (eltwise.map Invocation.eltwisePair)

/-- The tree of the lookup of a value. -/
def ScalarLookup.tree : ScalarLookup → Expr
  | .scalar name => .operand name 0
  | .vectorEntry entry property => .binary .lookup 0 entry.tree property.tree
  | .matrixEntry rows columns name =>
    .binary .lookup 0 (.binary .comma 0 rows.tree columns.tree) (.operand name 0)

/-- The tree of the lookup of a vector. -/
def VectorLookup.tree : VectorLookup → Expr
  | .vector axis property => .binary .lookup 0 axis.tree property.tree
  | .matrixSlice axis entry name =>
    .binary .lookup 0 (.binary .comma 0 axis.tree entry.tree) (.operand name 0)

/-- The tree of the lookup of a matrix. -/
def MatrixLookup.tree (lookup : MatrixLookup) : Expr :=
  .binary .lookup 0 (.binary .comma 0 lookup.rows.tree lookup.columns.tree)
    (.operand lookup.name 0)

/-- The tree of a matrix query. -/
def MatrixQuery.tree (query : MatrixQuery) : Expr :=
  query.lookup.tree.withEltwise query.eltwise

/-- The tree of a vector query. -/
def VectorQuery.tree : VectorQuery → Expr
  | .lookup source eltwise => source.tree.withEltwise eltwise
  | .reduced matrix reduction eltwise =>
    .binary .reduce 0 matrix.tree (reduction.tree.withEltwise eltwise)

/-- The tree of a scalar query. -/
def ScalarQuery.tree : ScalarQuery → Expr
  | .lookup source eltwise => source.tree.withEltwise eltwise
  | .reduced vector reduction eltwise =>
    .binary .reduce 0 vector.tree (reduction.tree.withEltwise eltwise)

/-- The tree of a query. -/
def Query.tree : Query → Expr
  | .scalar query => query.tree
  | .vector query => query.tree
  | .matrix query => query.tree

/-! ### Their tokens -/

section Tokens

open Axial.Expr (tokens_joined)

variable {N : String → Prop} {I : OperationKind → Invocation → Prop}

theorem PropertyChain.tokens_tree (chain : PropertyChain) : chain.tree.tokens = chain.tokens := by
  rw [tree, tokens_joined, List.flatMap_map]
  rfl

theorem AxisLookup.tokens_tree {lookup : AxisLookup} (h : lookup.IsMadeOf N) :
    lookup.tree.tokens = lookup.tokens := by
  rw [tree, tokens]
  split
  · next hinverted =>
    rw [h.test_eq_none hinverted, Expr.tokens, PropertyChain.tokens_tree]
    exact (List.append_nil _).symm
  · cases lookup.test with
    | none => simp [PropertyChain.tokens_tree]
    | some test => simp [Expr.tokens, PropertyTest.tokens, PropertyChain.tokens_tree]

theorem mem_sortRuns {filters : List AxisFilter} {filter : AxisFilter} :
    filter ∈ sortRuns filters ↔ filter ∈ filters :=
  (sortRuns_perm filters).mem_iff

theorem FilteredAxis.tokens_tree {axis : FilteredAxis} (h : axis.IsMadeOf N) :
    axis.tree.tokens = axis.tokens := by
  have hfilters : ∀ filter ∈ sortRuns axis.filters,
      (Token.operator filter.pair.1 :: filter.pair.2.tokens) = filter.tokens :=
    fun filter hfilter => congrArg (_ :: ·)
      (AxisLookup.tokens_tree (h.filters filter (mem_sortRuns.1 hfilter)))
  rw [tree, tokens_joined, List.flatMap_map, List.flatMap_congr hfilters]
  rfl

theorem AxisEntry.tokens_tree (entry : AxisEntry) : entry.tree.tokens = entry.tokens := rfl

/-- Parameters are written like assignments of the texts of their values. -/
theorem Parameters.pairsAfter_eq (separator : Operator) (parameters : Parameters) :
    parameters.pairsAfter separator =
      Assignment.pairsAfter separator (parameters.map fun (name, value) => (name, value.text)) := by
  induction parameters generalizing separator with
  | nil => rfl
  | cons parameter more ih => exact congrArg (List.cons _) (ih .comma)

theorem Assignment.tokens_pairsAfter (separator : Operator) (assignments : List Assignment) :
    (pairsAfter separator assignments).flatMap (fun pair => .operator pair.1 :: pair.2.tokens) =
      tokensAfter separator assignments := by
  induction assignments generalizing separator with
  | nil => rfl
  | cons assignment more ih =>
    obtain ⟨name, literal⟩ := assignment
    rw [pairsAfter, List.flatMap_cons, ih]
    rfl

theorem Parameters.tokens_pairsAfter (separator : Operator) (parameters : Parameters) :
    (parameters.pairsAfter separator).flatMap (fun pair => .operator pair.1 :: pair.2.tokens) =
      parameters.tokensAfter separator := by
  rw [pairsAfter_eq, Assignment.tokens_pairsAfter]
  induction parameters generalizing separator with
  | nil => rfl
  | cons parameter more ih =>
    rw [tokensAfter, ← ih .comma]
    rfl

theorem Invocation.tokens_tree (invocation : Invocation) :
    invocation.tree.tokens = invocation.tokens := by
  rw [tree, tokens_joined, Parameters.tokens_pairsAfter]
  rfl

theorem Expr.tokens_withEltwise (base : Expr) (eltwise : List Invocation) :
    (base.withEltwise eltwise).tokens = base.tokens ++ eltwiseTokens eltwise := by
  rw [withEltwise, tokens_joined, List.flatMap_map, eltwiseTokens]
  simp [Invocation.eltwisePair, Invocation.tokens_tree]

theorem ScalarLookup.tokens_tree {lookup : ScalarLookup} (h : lookup.IsMadeOf N) :
    lookup.tree.tokens = lookup.tokens := by
  cases lookup with
  | scalar name => rfl
  | vectorEntry entry property =>
    simp [tree, tokens, Expr.tokens, AxisEntry.tokens_tree, AxisLookup.tokens_tree h.2]
  | matrixEntry rows columns name =>
    simp [tree, tokens, Expr.tokens, AxisEntry.tokens_tree]

theorem VectorLookup.tokens_tree {lookup : VectorLookup} (h : lookup.IsMadeOf N) :
    lookup.tree.tokens = lookup.tokens := by
  cases lookup with
  | vector axis property =>
    simp [tree, tokens, Expr.tokens, FilteredAxis.tokens_tree h.1, AxisLookup.tokens_tree h.2]
  | matrixSlice axis entry name =>
    simp [tree, tokens, Expr.tokens, FilteredAxis.tokens_tree h.1, AxisEntry.tokens_tree]

theorem MatrixLookup.tokens_tree {lookup : MatrixLookup} (h : lookup.IsMadeOf N) :
    lookup.tree.tokens = lookup.tokens := by
  simp [tree, tokens, Expr.tokens, FilteredAxis.tokens_tree h.rows,
    FilteredAxis.tokens_tree h.columns]

theorem MatrixQuery.tokens_tree {query : MatrixQuery} (h : query.IsMadeOf N I) :
    query.tree.tokens = query.tokens := by
  rw [tree, Expr.tokens_withEltwise, MatrixLookup.tokens_tree h.lookup]
  rfl

theorem VectorQuery.tokens_tree {query : VectorQuery} (h : query.IsMadeOf N I) :
    query.tree.tokens = query.tokens := by
  cases query with
  | lookup source eltwise =>
    rw [tree, Expr.tokens_withEltwise, VectorLookup.tokens_tree h.1]
    rfl
  | reduced matrix reduction eltwise =>
    simp [tree, tokens, Expr.tokens, Expr.tokens_withEltwise, MatrixQuery.tokens_tree h.1,
      Invocation.tokens_tree]

theorem ScalarQuery.tokens_tree {query : ScalarQuery} (h : query.IsMadeOf N I) :
    query.tree.tokens = query.tokens := by
  cases query with
  | lookup source eltwise =>
    rw [tree, Expr.tokens_withEltwise, ScalarLookup.tokens_tree h.1]
    rfl
  | reduced vector reduction eltwise =>
    simp [tree, tokens, Expr.tokens, Expr.tokens_withEltwise, VectorQuery.tokens_tree h.1,
      Invocation.tokens_tree]

/-- The tree of a query reads as its canonical form. -/
theorem Query.tokens_tree {query : Query} (h : query.IsMadeOf N I) :
    query.tree.tokens = query.tokens := by
  cases query with
  | scalar query => exact ScalarQuery.tokens_tree h
  | vector query => exact VectorQuery.tokens_tree h
  | matrix query => exact MatrixQuery.tokens_tree h

end Tokens

/-! ### Their grouping -/

section Grouping

open Axial.Expr (fits_operand fits_inverted fits_binary fits_joined)

theorem PropertyChain.fits_tree (chain : PropertyChain) : chain.tree.Fits 6 := by
  refine fits_joined (by decide) (fits_operand _) ?_
  intro pair hpair
  obtain ⟨name, -, rfl⟩ := List.mem_map.1 hpair
  exact ⟨rfl, fits_operand name⟩

theorem AxisLookup.fits_tree (lookup : AxisLookup) : lookup.tree.Fits 5 := by
  have hproperty := lookup.property.fits_tree
  unfold tree
  split
  · exact fits_inverted (hproperty.mono (by decide))
  · split
    · exact hproperty.mono (by decide)
    · next test _ =>
      exact fits_binary (.compare test.comparison) rfl (by decide) hproperty (fits_operand _)

theorem FilteredAxis.fits_tree (axis : FilteredAxis) : axis.tree.Fits 4 := by
  refine fits_joined (by decide) (fits_operand _) ?_
  intro pair hpair
  obtain ⟨filter, -, rfl⟩ := List.mem_map.1 hpair
  exact ⟨rfl, filter.lookup.fits_tree⟩

theorem Expr.fits_assigned (name value : String) : (assigned name value).Fits 5 :=
  fits_binary (.compare .equal) rfl (by decide) (fits_operand _) (fits_operand _)

theorem AxisEntry.fits_tree (entry : AxisEntry) : entry.tree.Fits 5 :=
  Expr.fits_assigned ..

theorem Assignment.fits_pairsAfter {separator : Operator} (hseparator : separator.level = 3)
    (assignments : List Assignment) :
    ∀ pair ∈ Assignment.pairsAfter separator assignments, pair.1.level = 3 ∧ pair.2.Fits 4 := by
  induction assignments generalizing separator with
  | nil => exact nofun
  | cons assignment more ih =>
    obtain ⟨name, literal⟩ := assignment
    have hfirst := (Expr.fits_assigned name literal).mono (by decide : 4 ≤ 5)
    exact List.forall_mem_cons.2 ⟨⟨hseparator, hfirst⟩, ih rfl⟩

theorem Invocation.fits_tree (invocation : Invocation) : invocation.tree.Fits 3 :=
  fits_joined (by decide) (fits_operand _)
    (Parameters.pairsAfter_eq .semicolon invocation.parameters ▸ Assignment.fits_pairsAfter rfl _)

theorem Expr.fits_withEltwise {base : Expr} (h : base.Fits 2) (eltwise : List Invocation) :
    (base.withEltwise eltwise).Fits 1 := by
  refine fits_joined (by decide) h ?_
  intro pair hpair
  obtain ⟨invocation, -, rfl⟩ := List.mem_map.1 hpair
  exact ⟨rfl, invocation.fits_tree.mono (by decide)⟩

theorem Expr.fits_pair {left right : Expr} (hleft : left.Fits 4) (hright : right.Fits 4) :
    (binary .comma 0 left right).Fits 3 :=
  fits_binary .comma rfl (by decide) hleft (hright.mono (by decide))

theorem Expr.fits_lookup {axes property : Expr} (haxes : axes.Fits 3)
    (hproperty : property.Fits 5) :
    (binary .lookup 0 axes property).Fits 2 :=
  fits_binary .lookup rfl (by decide) haxes (hproperty.mono (by decide))

theorem ScalarLookup.fits_tree (lookup : ScalarLookup) : lookup.tree.Fits 2 := by
  cases lookup with
  | scalar name => exact fits_operand name
  | vectorEntry entry property =>
    exact Expr.fits_lookup (entry.fits_tree.mono (by decide)) property.fits_tree
  | matrixEntry rows columns name =>
    exact Expr.fits_lookup (Expr.fits_pair (rows.fits_tree.mono (by decide))
      (columns.fits_tree.mono (by decide))) (fits_operand name)

theorem VectorLookup.fits_tree (lookup : VectorLookup) : lookup.tree.Fits 2 := by
  cases lookup with
  | vector axis property =>
    exact Expr.fits_lookup (axis.fits_tree.mono (by decide)) property.fits_tree
  | matrixSlice axis entry name =>
    exact Expr.fits_lookup (Expr.fits_pair axis.fits_tree (entry.fits_tree.mono (by decide)))
      (fits_operand name)

theorem MatrixLookup.fits_tree (lookup : MatrixLookup) : lookup.tree.Fits 2 :=
  Expr.fits_lookup (Expr.fits_pair lookup.rows.fits_tree lookup.columns.fits_tree)
    (fits_operand lookup.name)

theorem MatrixQuery.fits_tree (query : MatrixQuery) : query.tree.Fits 1 :=
  Expr.fits_withEltwise query.lookup.fits_tree query.eltwise

theorem Expr.isGrouped_reduced {input : Expr} (hinput : input.IsGrouped ∧ input.Closes 0)
    (reduction : Invocation) (eltwise : List Invocation) :
    (binary .reduce 0 input (reduction.tree.withEltwise eltwise)).IsGrouped ∧
      (binary .reduce 0 input (reduction.tree.withEltwise eltwise)).Closes 0 :=
  isGrouped_reduce hinput.1 hinput.2
    (fits_withEltwise (reduction.fits_tree.mono (by decide)) eltwise)

theorem Expr.Fits.isGrouped_closes {expr : Expr} (h : expr.Fits 1) :
    expr.IsGrouped ∧ expr.Closes 0 :=
  ⟨h.grouped, h.closes 0 Nat.zero_lt_one⟩

theorem VectorQuery.isGrouped_tree (query : VectorQuery) :
    query.tree.IsGrouped ∧ query.tree.Closes 0 := by
  cases query with
  | lookup source eltwise => exact (Expr.fits_withEltwise source.fits_tree eltwise).isGrouped_closes
  | reduced matrix reduction eltwise =>
    exact Expr.isGrouped_reduced matrix.fits_tree.isGrouped_closes reduction eltwise

theorem ScalarQuery.isGrouped_tree (query : ScalarQuery) :
    query.tree.IsGrouped ∧ query.tree.Closes 0 := by
  cases query with
  | lookup source eltwise => exact (Expr.fits_withEltwise source.fits_tree eltwise).isGrouped_closes
  | reduced vector reduction eltwise =>
    exact Expr.isGrouped_reduced vector.isGrouped_tree reduction eltwise

/-- The tree of a query is grouped as the levels of its operators demand. -/
theorem Query.isGrouped_tree (query : Query) : query.tree.IsGrouped := by
  cases query with
  | scalar query => exact query.isGrouped_tree.1
  | vector query => exact query.isGrouped_tree.1
  | matrix query => exact query.fits_tree.grouped

end Grouping

end Axial
