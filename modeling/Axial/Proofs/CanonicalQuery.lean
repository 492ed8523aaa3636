import Mathlib.Data.List.Forall2
import Axial.Proofs.Parameters
import Axial.Proofs.Runs

/-!
# Canonical queries

The canonical form of a query keeps all of it but the order of filters inside runs, and the sign
and the payload of a NaN among its parameters. Those that are read from a text have neither.

* `Query.map` : a query with each row of filters and each operation replaced.
* `Query.canonical` : the query that a canonical form stands for.
* `Query.SameUpToRuns` : queries that differ in what canonical forms do not keep.
* `Query.operations`, `Query.IsMadeOf.exists_kind` : the operations of a query, and what is asked of
  them.
* `Query.text_canonical`, `Query.canonical_eq_canonical_iff`.
-/

namespace Axial

/-! ### Mapping the parts of queries -/

section Map

variable (g : List AxisFilter → List AxisFilter) (f : Invocation → Invocation)

/-- An axis with its filters replaced. -/
def FilteredAxis.map (filtered : FilteredAxis) : FilteredAxis :=
  { filtered with filters := g filtered.filters }

/-- The lookup of a vector with the filters of its axis replaced. -/
def VectorLookup.map : VectorLookup → VectorLookup
  | vector axis property => vector (axis.map g) property
  | matrixSlice axis entry name => matrixSlice (axis.map g) entry name

/-- The lookup of a matrix with the filters of its axes replaced. -/
def MatrixLookup.map (lookup : MatrixLookup) : MatrixLookup :=
  { lookup with rows := lookup.rows.map g, columns := lookup.columns.map g }

/-- A matrix query with its filters and its operations replaced. -/
def MatrixQuery.map (query : MatrixQuery) : MatrixQuery :=
  ⟨query.lookup.map g, query.eltwise.map f⟩

/-- A vector query with its filters and its operations replaced. -/
def VectorQuery.map : VectorQuery → VectorQuery
  | lookup source eltwise => lookup (source.map g) (eltwise.map f)
  | reduced matrix reduction eltwise => reduced (matrix.map g f) (f reduction) (eltwise.map f)

/-- A scalar query with its filters and its operations replaced. -/
def ScalarQuery.map : ScalarQuery → ScalarQuery
  | lookup source eltwise => lookup source (eltwise.map f)
  | reduced vector reduction eltwise => reduced (vector.map g f) (f reduction) (eltwise.map f)

/-- A query with its filters and its operations replaced. -/
def Query.map : Query → Query
  | scalar query => scalar (query.map g f)
  | vector query => vector (query.map g f)
  | matrix query => matrix (query.map g f)

@[simp] theorem Query.arity_map (query : Query) : (query.map g f).arity = query.arity := by
  cases query <;> rfl

end Map

/-! ### The filters of a query -/

/-- The filters of the lookup of a vector. -/
def VectorLookup.filterLists : VectorLookup → List (List AxisFilter)
  | vector axis _ => [axis.filters]
  | matrixSlice axis _ _ => [axis.filters]

/-- The filters of the lookup of a matrix, axis by axis. -/
def MatrixLookup.filterLists (lookup : MatrixLookup) : List (List AxisFilter) :=
  [lookup.rows.filters, lookup.columns.filters]

/-- The filters of a vector query, axis by axis. -/
def VectorQuery.filterLists : VectorQuery → List (List AxisFilter)
  | lookup source _ => source.filterLists
  | reduced matrix _ _ => matrix.lookup.filterLists

/-- The filters of a scalar query, axis by axis. -/
def ScalarQuery.filterLists : ScalarQuery → List (List AxisFilter)
  | lookup _ _ => []
  | reduced vector _ _ => vector.filterLists

/-- The filters of a query, axis by axis. -/
def Query.filterLists : Query → List (List AxisFilter)
  | scalar query => query.filterLists
  | vector query => query.filterLists
  | matrix query => query.lookup.filterLists

/-- Queries that differ in the order of filters inside runs, and in the sign and the payload of
the NaNs among their parameters, and in nothing else. -/
def Query.SameUpToRuns (query other : Query) : Prop :=
  query.map (fun _ => []) Invocation.plain = other.map (fun _ => []) Invocation.plain ∧
    List.Forall₂ SameRuns query.filterLists other.filterLists

/-! ### The filters tell what was mapped to them -/

section MapEq

variable {g : List AxisFilter → List AxisFilter} {f : Invocation → Invocation}

theorem FilteredAxis.map_eq_map_iff {filtered other : FilteredAxis} :
    filtered.map g = other.map g ↔
      filtered.map (fun _ => []) = other.map (fun _ => []) ∧
        g filtered.filters = g other.filters := by
  simp [map]

theorem VectorLookup.map_eq_map_iff {lookup other : VectorLookup} :
    lookup.map g = other.map g ↔
      lookup.map (fun _ => []) = other.map (fun _ => []) ∧
        lookup.filterLists.map g = other.filterLists.map g := by
  cases lookup <;> cases other <;>
    simp [map, filterLists, FilteredAxis.map_eq_map_iff (g := g), and_right_comm]

theorem MatrixLookup.map_eq_map_iff {lookup other : MatrixLookup} :
    lookup.map g = other.map g ↔
      lookup.map (fun _ => []) = other.map (fun _ => []) ∧
        lookup.filterLists.map g = other.filterLists.map g := by
  simp only [map, filterLists, MatrixLookup.mk.injEq, FilteredAxis.map_eq_map_iff (g := g),
    List.map_cons, List.map_nil, List.cons.injEq]
  tauto

theorem MatrixQuery.map_eq_map_iff {query other : MatrixQuery} :
    query.map g f = other.map g f ↔
      query.map (fun _ => []) f = other.map (fun _ => []) f ∧
        query.lookup.filterLists.map g = other.lookup.filterLists.map g := by
  simp only [map, MatrixQuery.mk.injEq, MatrixLookup.map_eq_map_iff (g := g)]
  tauto

theorem VectorQuery.map_eq_map_iff {query other : VectorQuery} :
    query.map g f = other.map g f ↔
      query.map (fun _ => []) f = other.map (fun _ => []) f ∧
        query.filterLists.map g = other.filterLists.map g := by
  cases query with
  | lookup source eltwise =>
    cases other with
    | lookup source' eltwise' =>
      simp only [map, filterLists, lookup.injEq, VectorLookup.map_eq_map_iff (g := g)]
      tauto
    | reduced matrix' reduction' eltwise' => simp [map]
  | reduced matrix reduction eltwise =>
    cases other with
    | lookup source' eltwise' => simp [map]
    | reduced matrix' reduction' eltwise' =>
      simp only [map, filterLists, reduced.injEq, MatrixQuery.map_eq_map_iff (g := g)]
      tauto

theorem ScalarQuery.map_eq_map_iff {query other : ScalarQuery} :
    query.map g f = other.map g f ↔
      query.map (fun _ => []) f = other.map (fun _ => []) f ∧
        query.filterLists.map g = other.filterLists.map g := by
  cases query with
  | lookup source eltwise =>
    cases other with
    | lookup source' eltwise' => simp [map, filterLists]
    | reduced vector' reduction' eltwise' => simp [map]
  | reduced vector reduction eltwise =>
    cases other with
    | lookup source' eltwise' => simp [map]
    | reduced vector' reduction' eltwise' =>
      simp only [map, filterLists, reduced.injEq, VectorQuery.map_eq_map_iff (g := g)]
      tauto

/-- Mapped queries are equal if they are so without their filters and the mapped filters are. -/
theorem Query.map_eq_map_iff {query other : Query} :
    query.map g f = other.map g f ↔
      query.map (fun _ => []) f = other.map (fun _ => []) f ∧
        query.filterLists.map g = other.filterLists.map g := by
  cases query with
  | scalar query =>
    cases other with
    | scalar other =>
      simp only [map, filterLists, scalar.injEq, ScalarQuery.map_eq_map_iff (g := g)]
    | vector other => simp [map]
    | matrix other => simp [map]
  | vector query =>
    cases other with
    | scalar other => simp [map]
    | vector other =>
      simp only [map, filterLists, vector.injEq, VectorQuery.map_eq_map_iff (g := g)]
    | matrix other => simp [map]
  | matrix query =>
    cases other with
    | scalar other => simp [map]
    | vector other => simp [map]
    | matrix other =>
      simp only [map, filterLists, matrix.injEq, MatrixQuery.map_eq_map_iff (g := g)]

end MapEq

/-! ### The operations of a query -/

/-- The operations of a vector query in written order. -/
def VectorQuery.operations : VectorQuery → List Invocation
  | lookup _ eltwise => eltwise
  | reduced matrix reduction eltwise => matrix.eltwise ++ reduction :: eltwise

/-- The operations of a scalar query in written order. -/
def ScalarQuery.operations : ScalarQuery → List Invocation
  | lookup _ eltwise => eltwise
  | reduced vector reduction eltwise => vector.operations ++ reduction :: eltwise

/-- The operations of a query in written order. -/
def Query.operations : Query → List Invocation
  | scalar query => query.operations
  | vector query => query.operations
  | matrix query => query.eltwise

section IsMadeOf

variable {N : String → Prop} {I : OperationKind → Invocation → Prop} {invocation : Invocation}

theorem VectorQuery.IsMadeOf.exists_kind {query : VectorQuery} (h : query.IsMadeOf N I)
    (hmem : invocation ∈ query.operations) : ∃ kind, I kind invocation := by
  cases query with
  | lookup source eltwise => exact ⟨_, h.2 invocation hmem⟩
  | reduced matrix reduction eltwise =>
    obtain ⟨hmatrix, hreduction, heltwise⟩ := h
    rcases List.mem_append.1 hmem with hmem | hmem
    · exact ⟨_, hmatrix.eltwise invocation hmem⟩
    · rcases List.mem_cons.1 hmem with rfl | hmem
      · exact ⟨_, hreduction⟩
      · exact ⟨_, heltwise invocation hmem⟩

theorem ScalarQuery.IsMadeOf.exists_kind {query : ScalarQuery} (h : query.IsMadeOf N I)
    (hmem : invocation ∈ query.operations) : ∃ kind, I kind invocation := by
  cases query with
  | lookup source eltwise => exact ⟨_, h.2 invocation hmem⟩
  | reduced vector reduction eltwise =>
    obtain ⟨hvector, hreduction, heltwise⟩ := h
    rcases List.mem_append.1 hmem with hmem | hmem
    · exact VectorQuery.IsMadeOf.exists_kind hvector hmem
    · rcases List.mem_cons.1 hmem with rfl | hmem
      · exact ⟨_, hreduction⟩
      · exact ⟨_, heltwise invocation hmem⟩

/-- Each operation of a query is as asked of one kind. -/
theorem Query.IsMadeOf.exists_kind {query : Query} (h : query.IsMadeOf N I)
    (hmem : invocation ∈ query.operations) : ∃ kind, I kind invocation := by
  cases query with
  | scalar query => exact ScalarQuery.IsMadeOf.exists_kind h hmem
  | vector query => exact VectorQuery.IsMadeOf.exists_kind h hmem
  | matrix query => exact ⟨_, MatrixQuery.IsMadeOf.eltwise h invocation hmem⟩

end IsMadeOf

section Operations

variable {g : List AxisFilter → List AxisFilter} {e f : Invocation → Invocation}

theorem MatrixQuery.map_congr {query : MatrixQuery} (h : ∀ op ∈ query.eltwise, e op = f op) :
    query.map g e = query.map g f := by
  rw [map, map, List.map_congr_left h]

theorem VectorQuery.map_congr {query : VectorQuery} (h : ∀ op ∈ query.operations, e op = f op) :
    query.map g e = query.map g f := by
  cases query with
  | lookup source eltwise => exact congrArg (lookup _) (List.map_congr_left h)
  | reduced matrix reduction eltwise =>
    obtain ⟨hmatrix, htail⟩ := List.forall_mem_append.1 h
    obtain ⟨hreduction, heltwise⟩ := List.forall_mem_cons.1 htail
    rw [map, map, MatrixQuery.map_congr hmatrix, hreduction, List.map_congr_left heltwise]

theorem ScalarQuery.map_congr {query : ScalarQuery} (h : ∀ op ∈ query.operations, e op = f op) :
    query.map g e = query.map g f := by
  cases query with
  | lookup source eltwise => exact congrArg (lookup _) (List.map_congr_left h)
  | reduced vector reduction eltwise =>
    obtain ⟨hvector, htail⟩ := List.forall_mem_append.1 h
    obtain ⟨hreduction, heltwise⟩ := List.forall_mem_cons.1 htail
    rw [map, map, VectorQuery.map_congr hvector, hreduction, List.map_congr_left heltwise]

/-- A query is mapped alike by functions that agree on its operations. -/
theorem Query.map_congr {query : Query} (h : ∀ op ∈ query.operations, e op = f op) :
    query.map g e = query.map g f := by
  cases query with
  | scalar query => exact congrArg scalar (ScalarQuery.map_congr h)
  | vector query => exact congrArg vector (VectorQuery.map_congr h)
  | matrix query => exact congrArg matrix (MatrixQuery.map_congr h)

end Operations

/-! ### The canonical query -/

/-- The query that the canonical form of a query stands for: each run of filters is sorted, and
numbers are as their texts give them back. -/
def Query.canonical (query : Query) : Query :=
  query.map sortRuns Invocation.plain

@[simp] theorem Query.arity_canonical (query : Query) : query.canonical.arity = query.arity :=
  query.arity_map sortRuns Invocation.plain

theorem Parameters.tokensAfter_plain (separator : Operator) (parameters : Parameters) :
    tokensAfter separator (parameters.map fun (name, value) => (name, value.plain)) =
      parameters.tokensAfter separator := by
  induction parameters generalizing separator with
  | nil => rfl
  | cons parameter more ih =>
    obtain ⟨name, value⟩ := parameter
    rw [List.map_cons, tokensAfter, tokensAfter, ih, ParameterValue.text_plain]

@[simp] theorem Invocation.tokens_plain (invocation : Invocation) :
    invocation.plain.tokens = invocation.tokens :=
  congrArg (_ :: ·) (Parameters.tokensAfter_plain .semicolon invocation.parameters)

@[simp] theorem eltwiseTokens_map_plain (eltwise : List Invocation) :
    eltwiseTokens (eltwise.map Invocation.plain) = eltwiseTokens eltwise := by
  simp [eltwiseTokens, List.flatMap_map]

@[simp] theorem FilteredAxis.tokens_map_sortRuns (filtered : FilteredAxis) :
    (filtered.map sortRuns).tokens = filtered.tokens := by
  rw [tokens, map, sortRuns_sortRuns]
  rfl

theorem VectorLookup.tokens_map_sortRuns (lookup : VectorLookup) :
    (lookup.map sortRuns).tokens = lookup.tokens := by
  cases lookup <;> simp [map, tokens]

theorem MatrixLookup.tokens_map_sortRuns (lookup : MatrixLookup) :
    (lookup.map sortRuns).tokens = lookup.tokens := by
  simp [map, tokens]

theorem MatrixQuery.tokens_canonical (query : MatrixQuery) :
    (query.map sortRuns Invocation.plain).tokens = query.tokens := by
  simp [map, tokens, MatrixLookup.tokens_map_sortRuns]

theorem VectorQuery.tokens_canonical (query : VectorQuery) :
    (query.map sortRuns Invocation.plain).tokens = query.tokens := by
  cases query with
  | lookup source eltwise => simp [map, tokens, VectorLookup.tokens_map_sortRuns]
  | reduced matrix reduction eltwise => simp [map, tokens, MatrixQuery.tokens_canonical]

theorem ScalarQuery.tokens_canonical (query : ScalarQuery) :
    (query.map sortRuns Invocation.plain).tokens = query.tokens := by
  cases query with
  | lookup source eltwise => simp [map, tokens]
  | reduced vector reduction eltwise => simp [map, tokens, VectorQuery.tokens_canonical]

/-- The canonical query has the canonical form. -/
theorem Query.text_canonical (query : Query) : query.canonical.text = query.text := by
  have htokens : query.canonical.tokens = query.tokens := by
    cases query with
    | scalar query => exact query.tokens_canonical
    | vector query => exact query.tokens_canonical
    | matrix query => exact query.tokens_canonical
  rw [text, text, htokens]

theorem map_sortRuns_eq_iff {rows others : List (List AxisFilter)} :
    rows.map sortRuns = others.map sortRuns ↔ List.Forall₂ SameRuns rows others := by
  rw [← List.forall₂_eq_eq_eq, List.forall₂_map_left_iff, List.forall₂_map_right_iff]
  simp only [sortRuns_eq_sortRuns_iff]

/-- **Queries have one canonical query exactly if they are the same up to runs.** -/
theorem Query.canonical_eq_canonical_iff {query other : Query} :
    query.canonical = other.canonical ↔ query.SameUpToRuns other := by
  rw [canonical, canonical, map_eq_map_iff, map_sortRuns_eq_iff]
  rfl

end Axial
