import Axial.Proofs.Reading

/-!
# Queries and their canonical forms

A registry that is coherent accepts the canonical form of every query that it accepts, as the same
query but for the order of filters inside runs.

* `Query.wellFormed_of_parse` : an accepted query is well-formed.
* `Query.parse_text` : the canonical form of a well-formed query is accepted as its canonical query.
* `Query.text_eq_text_iff` : which queries share a canonical form.
* `Query.round_trip` : the above, for all texts that a registry accepts.
* `Registry.coherent_builtin` : the built-in operations are coherent.
-/

namespace Axial

/-! ### The names in the tree of a query -/

section Names

variable {N : String → Prop} {registry : Registry}

theorem Expr.isMadeOf_joined {first : Expr} {more : List (Operator × Expr)}
    (hfirst : first.IsMadeOf N) (hmore : ∀ pair ∈ more, pair.2.IsMadeOf N) :
    (joined first more).IsMadeOf N := by
  induction more generalizing first with
  | nil => exact hfirst
  | cons pair more ih =>
    obtain ⟨hnext, hmore⟩ := List.forall_mem_cons.1 hmore
    exact isMadeOf_binary.2 ⟨hfirst, ih hnext hmore⟩

theorem PropertyChain.isMadeOf_tree {chain : PropertyChain} (h : chain.IsMadeOf N) :
    chain.tree.IsMadeOf N := by
  obtain ⟨hfirst, hrest⟩ := List.forall_mem_cons.1 h
  refine Expr.isMadeOf_joined (Expr.isMadeOf_operand.2 hfirst) ?_
  intro pair hpair
  obtain ⟨name, hname, rfl⟩ := List.mem_map.1 hpair
  exact Expr.isMadeOf_operand.2 (hrest name hname)

theorem AxisLookup.isMadeOf_tree {lookup : AxisLookup} (h : lookup.IsMadeOf N) :
    lookup.tree.IsMadeOf N := by
  have hproperty := PropertyChain.isMadeOf_tree h.property
  unfold tree
  split
  · exact Expr.isMadeOf_inverted.2 hproperty
  · split
    · exact hproperty
    · next test htest =>
      exact Expr.isMadeOf_binary.2 ⟨hproperty, Expr.isMadeOf_operand.2 (h.literal test htest)⟩

theorem FilteredAxis.isMadeOf_tree {filtered : FilteredAxis} (h : filtered.IsMadeOf N) :
    filtered.tree.IsMadeOf N := by
  refine Expr.isMadeOf_joined (Expr.isMadeOf_operand.2 h.axis) ?_
  intro pair hpair
  obtain ⟨filter, hfilter, rfl⟩ := List.mem_map.1 hpair
  exact AxisLookup.isMadeOf_tree (h.filters filter (mem_sortRuns.1 hfilter))

theorem Expr.isMadeOf_assigned {name value : String} (hname : N name) (hvalue : N value) :
    (assigned name value).IsMadeOf N :=
  isMadeOf_binary.2 ⟨isMadeOf_operand.2 hname, isMadeOf_operand.2 hvalue⟩

theorem AxisEntry.isMadeOf_tree {entry : AxisEntry} (h : entry.IsMadeOf N) :
    entry.tree.IsMadeOf N :=
  Expr.isMadeOf_assigned h.axis h.entry

theorem ScalarLookup.isMadeOf_tree {lookup : ScalarLookup} (h : lookup.IsMadeOf N) :
    lookup.tree.IsMadeOf N := by
  cases lookup with
  | scalar name => exact Expr.isMadeOf_operand.2 h
  | vectorEntry entry property =>
    exact Expr.isMadeOf_binary.2 ⟨AxisEntry.isMadeOf_tree h.1, AxisLookup.isMadeOf_tree h.2⟩
  | matrixEntry rows columns name =>
    obtain ⟨hrows, hcolumns, hname⟩ := h
    exact Expr.isMadeOf_binary.2 ⟨Expr.isMadeOf_binary.2 ⟨AxisEntry.isMadeOf_tree hrows,
      AxisEntry.isMadeOf_tree hcolumns⟩, Expr.isMadeOf_operand.2 hname⟩

theorem VectorLookup.isMadeOf_tree {lookup : VectorLookup} (h : lookup.IsMadeOf N) :
    lookup.tree.IsMadeOf N := by
  cases lookup with
  | vector axis property =>
    exact Expr.isMadeOf_binary.2 ⟨FilteredAxis.isMadeOf_tree h.1, AxisLookup.isMadeOf_tree h.2⟩
  | matrixSlice axis entry name =>
    obtain ⟨haxis, hentry, hname⟩ := h
    exact Expr.isMadeOf_binary.2 ⟨Expr.isMadeOf_binary.2 ⟨FilteredAxis.isMadeOf_tree haxis,
      AxisEntry.isMadeOf_tree hentry⟩, Expr.isMadeOf_operand.2 hname⟩

theorem MatrixLookup.isMadeOf_tree {lookup : MatrixLookup} (h : lookup.IsMadeOf N) :
    lookup.tree.IsMadeOf N :=
  Expr.isMadeOf_binary.2 ⟨Expr.isMadeOf_binary.2 ⟨FilteredAxis.isMadeOf_tree h.rows,
    FilteredAxis.isMadeOf_tree h.columns⟩, Expr.isMadeOf_operand.2 h.name⟩

variable (hregistry : registry.Coherent)

include hregistry

theorem Invocation.isMadeOf_tree {kind : OperationKind} {invocation : Invocation}
    (h : invocation.WellFormed registry kind) : invocation.tree.IsMadeOf Text.IsWritable := by
  obtain ⟨name, parameters⟩ := invocation
  obtain ⟨hname, signature, hsignature, hadmits⟩ := h
  have hnames := (hregistry.signature hsignature).isWritable
  refine Expr.isMadeOf_joined (Expr.isMadeOf_operand.2 hname) ?_
  dsimp only at hadmits ⊢
  clear hname hsignature
  generalize signature.parameters = specs at hadmits hnames
  generalize Operator.semicolon = separator
  induction hadmits generalizing separator with
  | nil => exact nofun
  | @cons spec parameter specs more hfirst _ ih =>
    obtain ⟨name, value⟩ := parameter
    obtain ⟨rfl : name = spec.name, -⟩ := hfirst
    obtain ⟨hspec, hnames⟩ := List.forall_mem_cons.1 hnames
    refine List.forall_mem_cons.2 ⟨?_, ih hnames .comma⟩
    exact Expr.isMadeOf_assigned hspec value.isWritable_text

theorem Expr.isMadeOf_withEltwise {base : Expr} {eltwise : List Invocation}
    (hbase : base.IsMadeOf Text.IsWritable)
    (h : ∀ invocation ∈ eltwise, invocation.WellFormed registry .eltwise) :
    (base.withEltwise eltwise).IsMadeOf Text.IsWritable := by
  refine isMadeOf_joined hbase ?_
  intro pair hpair
  obtain ⟨invocation, hmem, rfl⟩ := List.mem_map.1 hpair
  exact Invocation.isMadeOf_tree hregistry (h invocation hmem)

theorem MatrixQuery.isMadeOf_tree {query : MatrixQuery}
    (h : query.IsMadeOf Text.IsWritable (Invocation.WellFormed registry)) :
    query.tree.IsMadeOf Text.IsWritable :=
  Expr.isMadeOf_withEltwise hregistry (MatrixLookup.isMadeOf_tree h.lookup) h.eltwise

theorem VectorQuery.isMadeOf_tree {query : VectorQuery}
    (h : query.IsMadeOf Text.IsWritable (Invocation.WellFormed registry)) :
    query.tree.IsMadeOf Text.IsWritable := by
  cases query with
  | lookup source eltwise =>
    exact Expr.isMadeOf_withEltwise hregistry (VectorLookup.isMadeOf_tree h.1) h.2
  | reduced matrix reduction eltwise =>
    obtain ⟨hmatrix, hreduction, heltwise⟩ := h
    exact Expr.isMadeOf_binary.2 ⟨MatrixQuery.isMadeOf_tree hregistry hmatrix,
      Expr.isMadeOf_withEltwise hregistry (Invocation.isMadeOf_tree hregistry hreduction) heltwise⟩

theorem ScalarQuery.isMadeOf_tree {query : ScalarQuery}
    (h : query.IsMadeOf Text.IsWritable (Invocation.WellFormed registry)) :
    query.tree.IsMadeOf Text.IsWritable := by
  cases query with
  | lookup source eltwise =>
    exact Expr.isMadeOf_withEltwise hregistry (ScalarLookup.isMadeOf_tree h.1) h.2
  | reduced vector reduction eltwise =>
    obtain ⟨hvector, hreduction, heltwise⟩ := h
    exact Expr.isMadeOf_binary.2 ⟨VectorQuery.isMadeOf_tree hregistry hvector,
      Expr.isMadeOf_withEltwise hregistry (Invocation.isMadeOf_tree hregistry hreduction) heltwise⟩

/-- The tree of a well-formed query can be written. -/
theorem Query.isWritable_of_mem_tree {query : Query} (h : query.WellFormed registry) :
    ∀ token ∈ query.tree.tokens, token.IsWritable := by
  have htree : query.tree.IsMadeOf Text.IsWritable := by
    cases query with
    | scalar query => exact ScalarQuery.isMadeOf_tree hregistry h
    | vector query => exact VectorQuery.isMadeOf_tree hregistry h
    | matrix query => exact MatrixQuery.isMadeOf_tree hregistry h
  intro token hmem
  cases token with
  | operand name => exact htree name hmem
  | operator op => trivial

end Names

/-! ### Canonical forms are accepted -/

namespace Query

variable {registry : Registry} {text : String} {query other : Query}

/-- An accepted query is well-formed. -/
theorem wellFormed_of_parse (hregistry : registry.Coherent)
    (h : Query.parse registry text = .ok query) : query.WellFormed registry := by
  obtain ⟨expr, cleaned, hexpr, hquery⟩ := parse_eq_ok.1 h
  refine isMadeOf_ofExpr hregistry.resolves hquery ?_
  intro name hname
  -- the operands of the tree are those of the cleaned text
  obtain ⟨hlexemes, -⟩ := Expr.lexemes_of_parseLexemes (Expr.parse_eq_ok.1 hexpr).1
  rw [← Expr.map_token_lexemes, hlexemes] at hname
  obtain ⟨lexeme, hlexeme, htoken⟩ := List.mem_map.1 hname
  have hwritable := isWritable_of_scan_clean hlexeme
  rw [htoken] at hwritable
  exact hwritable

/-- The canonical form of a well-formed query is accepted as its canonical query. -/
theorem parse_text (hregistry : registry.Coherent) (h : query.WellFormed registry) :
    Query.parse registry query.text = .ok query.canonical := by
  have htext : query.tree.text = query.text := by rw [Expr.text, tokens_tree h, Query.text]
  obtain ⟨parsed, cleaned, hparsed, herase⟩ :=
    Expr.parse_text query.isGrouped_tree (isWritable_of_mem_tree hregistry h)
  rw [htext] at hparsed
  exact parse_eq_ok.2 ⟨parsed, cleaned, hparsed, ofExpr_tree hregistry h herase⟩

/-- Well-formed queries have one canonical form exactly if they are the same up to runs. -/
theorem text_eq_text_iff (hregistry : registry.Coherent) (hquery : query.WellFormed registry)
    (hother : other.WellFormed registry) : query.text = other.text ↔ query.SameUpToRuns other := by
  rw [← canonical_eq_canonical_iff]
  constructor
  · intro h
    -- the shared form is parsed once, into both canonical queries
    have hparse := parse_text hregistry hquery
    rw [h, parse_text hregistry hother] at hparse
    exact (Except.ok.inj hparse).symm
  · intro h
    rw [← text_canonical query, h, text_canonical]

/-- **Canonical forms are parsed into what they are the form of.** For a coherent registry, the
queries that are accepted are well-formed; the canonical form of a well-formed query is accepted,
at its arity, as the query with its runs of filters sorted; the canonical form of an accepted query
is its own canonical form; and accepted queries share a canonical form exactly if they are the same
up to the order of filters inside runs. -/
theorem round_trip (hregistry : registry.Coherent) :
    (∀ text query, Query.parse registry text = .ok query → query.WellFormed registry) ∧
      (∀ query : Query, query.WellFormed registry →
        Query.parse registry query.text = .ok query.canonical ∧
          query.canonical.arity = query.arity) ∧
      (∀ text query, Query.parse registry text = .ok query →
        ∃ again, Query.parse registry query.text = .ok again ∧ again.text = query.text) ∧
      ∀ text₁ text₂ query₁ query₂, Query.parse registry text₁ = .ok query₁ →
        Query.parse registry text₂ = .ok query₂ →
          (query₁.text = query₂.text ↔ query₁.SameUpToRuns query₂) := by
  have haccepted : ∀ {text query}, Query.parse registry text = .ok query →
      query.WellFormed registry := fun h => wellFormed_of_parse hregistry h
  refine ⟨fun _ _ => haccepted, fun query h => ?_, fun text query h => ?_, ?_⟩
  · exact ⟨parse_text hregistry h, query.arity_canonical⟩
  · exact ⟨query.canonical, parse_text hregistry (haccepted h), query.text_canonical⟩
  · intro text₁ text₂ query₁ query₂ h₁ h₂
    exact text_eq_text_iff hregistry (haccepted h₁) (haccepted h₂)

/-- Without coherence a default can have a text that its own type does not read. -/
example :
    let parameters : List ParameterSpec := [⟨"n", .integer, .auto, ""⟩]
    let registry : Registry := ⟨[⟨⟨"Op", "", parameters⟩, fun _ => id⟩], []⟩
    (Query.parse registry "a % Op").toOption.map Query.text = some "a % Op ; n = auto" ∧
      (Query.parse registry "a % Op ; n = auto").toOption = none := by
  decide +kernel

end Query

/-! ### The built-in operations -/

/-- A registry is coherent if its names can be written and each default is read from its text. -/
theorem Registry.coherent_of_forall {registry : Registry}
    (h : ∀ kind, ∀ signature ∈ registry.signatures kind,
      (signature.parameters.map ParameterSpec.name).Nodup ∧
        ∀ spec ∈ signature.parameters, Text.IsWritable spec.name ∧
          spec.type.parse? spec.default.text = some spec.default) : registry.Coherent := by
  intro kind signature hsignature
  obtain ⟨hnodup, hspecs⟩ := h kind signature hsignature
  exact ⟨hnodup, fun spec hspec => (hspecs spec hspec).1,
    fun spec hspec => ⟨spec.default.text, (hspecs spec hspec).2⟩⟩

/-- The built-in operations are coherent. -/
theorem Registry.coherent_builtin : Registry.builtin.Coherent := by
  refine coherent_of_forall ?_
  intro kind
  cases kind with
  | eltwise => decide +kernel
  | reduction => decide +kernel

/-- Filters that are out of order, and parameters that are left to their defaults. -/
theorem Query.round_trip_unsorted : Registry.builtin.Coherent ∧ ∃ query,
    Query.parse .builtin "gene & b & a @ score % Log" = .ok query ∧
      Query.parse .builtin "gene & a & b @ score % Log ; base = e , eps = 0" =
        .ok query.canonical := by
  refine ⟨Registry.coherent_builtin, ?_⟩
  let named (name : String) : AxisLookup := ⟨⟨name, []⟩, none, false⟩
  let query : Query := .vector (.lookup
    (.vector ⟨"gene", [⟨.and, named "b"⟩, ⟨.and, named "a"⟩]⟩ (named "score"))
    [⟨"Log", [("base", .e), ("eps", .float (.ofNat 0))]⟩])
  have hquery : (Query.parse .builtin "gene & b & a @ score % Log").toOption = some query := by
    decide +kernel
  rw [toOption_eq_some] at hquery
  have hsorted : sortRuns [⟨.and, named "b"⟩, ⟨.and, named "a"⟩] =
      [⟨.and, named "a"⟩, ⟨.and, named "b"⟩] := by
    have hle : AxisFilter.le ⟨.and, named "b"⟩ ⟨.and, named "a"⟩ = false := by decide
    have hruns : filterRuns [⟨.and, named "b"⟩, ⟨.and, named "a"⟩] =
        [[⟨.and, named "b"⟩, ⟨.and, named "a"⟩]] := by decide
    rw [sortRuns_eq_flatten, hruns]
    simp [sortRun, List.mergeSort, List.MergeSort.Internal.splitInTwo, hle]
  have htext : query.text = "gene & a & b @ score % Log ; base = e , eps = 0" := by
    simp only [query, Query.text, Query.tokens, VectorQuery.tokens, VectorLookup.tokens,
      FilteredAxis.tokens, hsorted]
    decide +kernel
  obtain ⟨haccepted, hcanonical, -⟩ := Query.round_trip Registry.coherent_builtin
  obtain ⟨hparse, -⟩ := hcanonical query (haccepted _ _ hquery)
  rw [htext] at hparse
  exact ⟨query, hquery, hparse⟩

end Axial
