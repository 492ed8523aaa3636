import Axial.Proofs.Chains

/-!
# What a query reads

The answer to a query, and also the error if there is none, is determined by what the store shows
for the names in the query. Other data may be set before the query is evaluated, and the outcome is
the same.

Two names are read in more than one way. A property that is followed leads to the axis that is
called like it, or like the part of its name before the first dot; either of them is read, for the
second one counts as long as the first one is missing. The property `name` is read from the axis, so
a vector of this name is not read.

* `Footprint` : the names in a query, by what they are looked up as.
* `Footprint.Reads` : what a store may be asked for.
* `Store.AgreesOn` : two stores show the same wherever they may be asked.
* `Store.AgreesOn.follow`, `Store.AgreesOn.indices` and so on : the steps of the evaluation.
* `Query.eval_congr` : the outcome is determined by what is read.
* `Query.eval_of_unread` : calls that set something else do not change the outcome.
-/

namespace Axial

/-! ### The names in a query -/

/-- The names in a query: of axes, of scalars, of matrices, and chains of properties. -/
structure Footprint where
  axes : List String := []
  chains : List PropertyChain := []
  scalars : List String := []
  matrices : List String := []

/-- The properties of the filters of an axis. -/
def FilteredAxis.chains (filtered : FilteredAxis) : List PropertyChain :=
  filtered.filters.map (·.lookup.property)

/-- The names in the lookup of a single value. -/
def ScalarLookup.footprint : ScalarLookup → Footprint
  | scalar name => { scalars := [name] }
  | vectorEntry entry lookup => { axes := [entry.axis], chains := [lookup.property] }
  | matrixEntry rows columns name => { axes := [rows.axis, columns.axis], matrices := [name] }

/-- The names in the lookup of a vector. -/
def VectorLookup.footprint : VectorLookup → Footprint
  | vector filtered lookup =>
    { axes := [filtered.axis], chains := lookup.property :: filtered.chains }
  | matrixSlice filtered entry name =>
    { axes := [filtered.axis, entry.axis], chains := filtered.chains, matrices := [name] }

/-- The names in the lookup of a matrix. -/
def MatrixLookup.footprint (lookup : MatrixLookup) : Footprint where
  axes := [lookup.rows.axis, lookup.columns.axis]
  chains := lookup.rows.chains ++ lookup.columns.chains
  matrices := [lookup.name]

/-- The names in a matrix query. -/
def MatrixQuery.footprint (query : MatrixQuery) : Footprint :=
  query.lookup.footprint

/-- The names in a vector query. -/
def VectorQuery.footprint : VectorQuery → Footprint
  | lookup source _ => source.footprint
  | reduced matrix _ _ => matrix.footprint

/-- The names in a scalar query. -/
def ScalarQuery.footprint : ScalarQuery → Footprint
  | lookup source _ => source.footprint
  | reduced vector _ _ => vector.footprint

/-- The names in a query. -/
def Query.footprint : Query → Footprint
  | scalar query => query.footprint
  | vector query => query.footprint
  | matrix query => query.footprint

/-! ### What a store may be asked for -/

/-- The axis that a property leads to may be this one: it is called like the property, or like the
part of its name before the first dot. -/
def MayLeadTo (property axis : String) : Prop :=
  axis = property ∨ '.' ∉ axis.toList ∧ axis.toList ++ ['.'] <+: property.toList

instance (property axis : String) : Decidable (MayLeadTo property axis) :=
  inferInstanceAs (Decidable (_ ∨ _))

/-- What a store may be asked for: the axes of the query and those that its properties may lead to,
its scalars, its properties along any axis but for the names of entries, and its matrices along any
axes. -/
def Footprint.Reads (footprint : Footprint) : Key → Prop
  | .axis axis => axis ∈ footprint.axes ∨
    ∃ chain ∈ footprint.chains, ∃ property ∈ chain.names.dropLast, MayLeadTo property axis
  | .scalar name => name ∈ footprint.scalars
  | .vector _ name => name ≠ entryNameProperty ∧ ∃ chain ∈ footprint.chains, name ∈ chain.names
  | .matrix _ name => name ∈ footprint.matrices

instance (footprint : Footprint) : (key : Key) → Decidable (footprint.Reads key)
  | .axis _ => inferInstanceAs (Decidable (_ ∨ _))
  | .scalar _ => inferInstanceAs (Decidable (_ ∈ _))
  | .vector .. => inferInstanceAs (Decidable (_ ∧ _))
  | .matrix .. => inferInstanceAs (Decidable (_ ∈ _))

/-- Two stores have the same name, and show the same for all that they may be asked for. -/
structure Store.AgreesOn (store other : Store) (footprint : Footprint) : Prop where
  name : store.name = other.name
  shown : ∀ key, footprint.Reads key → store.AgreesAt other key

/-! ### The steps of the evaluation -/

theorem mayLeadTo_iff {property axis : String} :
    MayLeadTo property axis ↔ axis = property ∨ Store.stem? property = some axis := by
  rw [MayLeadTo, Store.stem?_eq_some]
  refine or_congr_right (and_congr_right fun _ => exists_congr fun tail => ?_)
  rw [List.append_assoc, List.singleton_append, eq_comm]

theorem Store.LeadsTo.mayLeadTo {store : Store} {property axis : String}
    (h : store.LeadsTo property axis) : MayLeadTo property axis :=
  mayLeadTo_iff.2 (h.2.imp_right fun hstem => Store.stem?_eq_some.2 hstem.2)

/-- A property of a chain that is followed by another one may lead to each of its axes. -/
theorem Footprint.reads_axis_of_suffix {footprint : Footprint} {chain : PropertyChain}
    (hchain : chain ∈ footprint.chains) {property next axis : String} {rest : List String}
    (hsuffix : property :: next :: rest <:+ chain.names) (haxis : MayLeadTo property axis) :
    footprint.Reads (.axis axis) := by
  obtain ⟨before, hnames⟩ := hsuffix
  refine .inr ⟨chain, hchain, property, ?_, haxis⟩
  rw [← hnames, List.dropLast_append_of_ne_nil (List.cons_ne_nil _ _)]
  exact List.mem_append_right _ List.mem_cons_self

namespace Store.AgreesOn

variable {store other : Store} {footprint : Footprint} (h : store.AgreesOn other footprint)
include h

/-! #### Steps that only name the store -/

theorem refuse {α : Type} (cause : EvalCause) :
    (store.refuse cause : Except EvalError α) = other.refuse cause := by
  rw [Store.refuse, Store.refuse, h.name]

theorem require {α : Type} (cause : EvalCause) (item? : Option α) :
    store.require cause item? = other.require cause item? := by
  cases item? with
  | none => exact h.refuse cause
  | some a => rfl

theorem outcomes (test : PropertyTest) (axis : String) (property : PropertyChain)
    (values : Column) :
    test.outcomes store axis property values = test.outcomes other axis property values := by
  simp only [PropertyTest.outcomes, h.refuse, h.require]

theorem finish (lookup : AxisLookup) (axis : String) (values : Column) :
    lookup.finish store axis values = lookup.finish other axis values := by
  simp only [AxisLookup.finish, h.refuse, h.outcomes]

theorem applyToColumn (registry : Registry) (eltwise : List Invocation) (values : Column) :
    registry.applyToColumn store eltwise values = registry.applyToColumn other eltwise values := by
  simp only [Registry.applyToColumn, Registry.pipeline, Store.numbers, h.require]

theorem applyToValue (registry : Registry) (eltwise : List Invocation) (value : Value) :
    registry.applyToValue store eltwise value = registry.applyToValue other eltwise value := by
  simp only [Registry.applyToValue, h.applyToColumn, h.require]

theorem applyToVector (registry : Registry) (eltwise : List Invocation) :
    registry.applyToVector store eltwise = registry.applyToVector other eltwise := by
  funext vector
  simp only [Registry.applyToVector, h.applyToColumn]

theorem applyToMatrix (registry : Registry) (eltwise : List Invocation) :
    registry.applyToMatrix store eltwise = registry.applyToMatrix other eltwise := by
  funext named
  simp only [Registry.applyToMatrix, h.applyToColumn]

theorem reduceVector (registry : Registry) (reduction : Invocation) (vector : NamedVector) :
    registry.reduceVector store reduction vector =
      registry.reduceVector other reduction vector := by
  simp only [Registry.reduceVector, Registry.reduce, Store.numbers, h.require]

theorem reduceColumns (registry : Registry) (reduction : Invocation) (named : NamedMatrix) :
    registry.reduceColumns store reduction named =
      registry.reduceColumns other reduction named := by
  simp only [Registry.reduceColumns, Registry.reduce, Store.numbers, h.require]

/-! #### Axes, properties and matrices -/

theorem entries? {axis : String} (hread : footprint.Reads (.axis axis)) :
    store.entries? axis = other.entries? axis :=
  h.shown (.axis axis) hread

theorem hasAxis {axis : String} (hread : footprint.Reads (.axis axis)) :
    store.hasAxis axis = other.hasAxis axis :=
  congrArg Option.isSome (h.entries? hread)

theorem requireEntries {axis : String} (hread : footprint.Reads (.axis axis)) :
    store.requireEntries axis = other.requireEntries axis := by
  rw [Store.requireEntries, Store.requireEntries, h.entries? hread, h.require]

theorem entryIndex {entry : AxisEntry} (hread : footprint.Reads (.axis entry.axis)) :
    store.entryIndex entry = other.entryIndex entry := by
  simp only [Store.entryIndex, h.requireEntries hread, h.require]

theorem nameVector {axis : String} (hread : footprint.Reads (.axis axis)) (indices : List Nat)
    (values : Column) :
    store.nameVector axis indices values = other.nameVector axis indices values := by
  simp only [Store.nameVector, h.requireEntries hread, h.require]

theorem requireMatrix {rows columns name : String} (hrows : footprint.Reads (.axis rows))
    (hcolumns : footprint.Reads (.axis columns)) (hname : name ∈ footprint.matrices) :
    store.requireMatrix rows columns name = other.requireMatrix rows columns name := by
  have hmatrix : store.matrix? rows columns name = other.matrix? rows columns name :=
    h.shown (.matrix s(rows, columns) name) hname rows columns rfl
  simp only [Store.requireMatrix, h.requireEntries hrows, h.requireEntries hcolumns, hmatrix,
    h.require]

/-- A property is read from the axis if it is that of the names of entries, and otherwise from a
vector that may be read. -/
theorem property {axis name : String} (hread : footprint.Reads (.axis axis))
    {chain : PropertyChain} (hchain : chain ∈ footprint.chains) (hname : name ∈ chain.names) :
    store.property axis name = other.property axis name := by
  rw [Store.property, Store.property, h.requireEntries hread]
  by_cases hentry : name = entryNameProperty
  · simp only [hentry, if_true]
  · have hvector : store.vector? axis name = other.vector? axis name :=
      h.shown (.vector axis name) ⟨hentry, chain, hchain, hname⟩
    simp only [hentry, if_false, hvector, h.require]

/-! #### Chains -/

/-- A property leads to the same axis in both stores: both have it, or an axis that is called like
the property, or neither has one. -/
theorem linkedAxis? {property : String}
    (hread : ∀ axis, MayLeadTo property axis → footprint.Reads (.axis axis)) :
    store.linkedAxis? property = other.linkedAxis? property := by
  rw [Store.linkedAxis?, Store.linkedAxis?, h.hasAxis (hread property (.inl rfl))]
  cases hstem : stem? property with
  | none => rfl
  | some stem =>
    have hstem : MayLeadTo property stem := mayLeadTo_iff.2 (.inr hstem)
    rw [Option.filter_some, Option.filter_some, h.hasAxis (hread stem hstem)]

/-- The rest of a chain is followed the same way in both stores. -/
theorem follow {chain : PropertyChain} (hchain : chain ∈ footprint.chains) {property : String}
    {rest : List String} (hsuffix : property :: rest <:+ chain.names) (axis : String)
    (values : Column) :
    store.follow axis property values rest = other.follow axis property values rest := by
  induction rest generalizing axis property values with
  | nil => rfl
  | cons next rest ih =>
    have hread : ∀ target, MayLeadTo property target → footprint.Reads (.axis target) :=
      fun target => Footprint.reads_axis_of_suffix hchain hsuffix
    have hrest : next :: rest <:+ chain.names := (List.suffix_cons ..).trans hsuffix
    cases values with
    | string names =>
      rw [Store.follow, Store.follow, h.linkedAxis? hread, h.require]
      cases htarget : other.linkedAxis? property with
      | none => rfl
      | some target =>
        have haxis : footprint.Reads (.axis target) :=
          hread target (linkedAxis?_eq_some.1 htarget).mayLeadTo
        have hfound : other.require (.missingAxis property) (some target) = .ok target := rfl
        simp only [hfound, ok_bind, h.requireEntries haxis, h.require,
          h.property haxis hchain (hrest.subset List.mem_cons_self), ih hrest]
    | _ => exact h.refuse _

theorem valuesFrom {lookup : AxisLookup} (hchain : lookup.property ∈ footprint.chains)
    (axis : String) (first : Column) :
    lookup.valuesFrom store axis first = lookup.valuesFrom other axis first := by
  simp only [AxisLookup.valuesFrom, h.follow hchain List.suffix_rfl, h.finish]

theorem values {lookup : AxisLookup} (hchain : lookup.property ∈ footprint.chains) {axis : String}
    (hread : footprint.Reads (.axis axis)) :
    lookup.values store axis = lookup.values other axis := by
  simp only [AxisLookup.values, h.property hread hchain List.mem_cons_self, h.valuesFrom hchain]

theorem valueAt {lookup : AxisLookup} (hchain : lookup.property ∈ footprint.chains)
    {entry : AxisEntry} (hread : footprint.Reads (.axis entry.axis)) :
    lookup.valueAt store entry = lookup.valueAt other entry := by
  simp only [AxisLookup.valueAt, h.entryIndex hread, h.property hread hchain List.mem_cons_self,
    h.valuesFrom hchain, h.require]

/-! #### Filtered axes -/

theorem bits {filter : AxisFilter} (hchain : filter.lookup.property ∈ footprint.chains)
    {axis : String} (hread : footprint.Reads (.axis axis)) :
    filter.bits store axis = filter.bits other axis := by
  simp only [AxisFilter.bits, h.values hchain hread, h.refuse]

/-- The filters of an axis keep the same entries in both stores. -/
theorem indices {filtered : FilteredAxis} (haxis : filtered.axis ∈ footprint.axes)
    (hchains : filtered.chains ⊆ footprint.chains) :
    filtered.indices store = filtered.indices other := by
  have hread : footprint.Reads (.axis filtered.axis) := .inl haxis
  have hmask : filtered.mask store = filtered.mask other := by
    rw [FilteredAxis.mask, FilteredAxis.mask, h.requireEntries hread]
    refine bind_congr fun entries => foldlM_congr (fun mask filter hfilter => ?_) _
    rw [h.bits (hchains (List.mem_map_of_mem hfilter)) hread]
  rw [FilteredAxis.indices, FilteredAxis.indices, hmask]

end Store.AgreesOn

/-! ### Lookups and queries -/

section Queries

variable {store other : Store}

theorem ScalarLookup.eval_congr {lookup : ScalarLookup}
    (h : store.AgreesOn other lookup.footprint) : lookup.eval store = lookup.eval other := by
  cases lookup with
  | scalar name =>
    have hscalar : store.scalar? name = other.scalar? name :=
      h.shown (.scalar name) List.mem_cons_self
    rw [eval, eval, hscalar, h.require]
  | vectorEntry entry lookup => exact h.valueAt List.mem_cons_self (.inl List.mem_cons_self)
  | matrixEntry rows columns name =>
    have hrows : (matrixEntry rows columns name).footprint.Reads (.axis rows.axis) :=
      .inl List.mem_cons_self
    have hcolumns : (matrixEntry rows columns name).footprint.Reads (.axis columns.axis) :=
      .inl (List.mem_cons_of_mem _ List.mem_cons_self)
    simp only [eval, h.entryIndex hrows, h.entryIndex hcolumns,
      h.requireMatrix hrows hcolumns List.mem_cons_self, h.require]

theorem VectorLookup.eval_congr {lookup : VectorLookup}
    (h : store.AgreesOn other lookup.footprint) : lookup.eval store = lookup.eval other := by
  cases lookup with
  | vector filtered lookup =>
    have haxis : (vector filtered lookup).footprint.Reads (.axis filtered.axis) :=
      .inl List.mem_cons_self
    simp only [eval, h.indices List.mem_cons_self (List.subset_cons_self ..),
      h.values List.mem_cons_self haxis, h.nameVector haxis]
  | matrixSlice filtered entry name =>
    have haxis : (matrixSlice filtered entry name).footprint.Reads (.axis filtered.axis) :=
      .inl List.mem_cons_self
    have hentry : (matrixSlice filtered entry name).footprint.Reads (.axis entry.axis) :=
      .inl (List.mem_cons_of_mem _ List.mem_cons_self)
    simp only [eval, h.indices List.mem_cons_self (List.Subset.refl _), h.entryIndex hentry,
      h.requireMatrix haxis hentry List.mem_cons_self, h.require, h.nameVector haxis]

theorem MatrixLookup.eval_congr {lookup : MatrixLookup}
    (h : store.AgreesOn other lookup.footprint) : lookup.eval store = lookup.eval other := by
  have hrows : lookup.footprint.Reads (.axis lookup.rows.axis) := .inl List.mem_cons_self
  have hcolumns : lookup.footprint.Reads (.axis lookup.columns.axis) :=
    .inl (List.mem_cons_of_mem _ List.mem_cons_self)
  simp only [eval, h.indices List.mem_cons_self (List.subset_append_left ..),
    h.indices (List.mem_cons_of_mem _ List.mem_cons_self) (List.subset_append_right ..),
    h.requireMatrix hrows hcolumns List.mem_cons_self, h.requireEntries hrows,
    h.requireEntries hcolumns, h.require]

variable {registry : Registry}

theorem MatrixQuery.eval_congr {query : MatrixQuery} (h : store.AgreesOn other query.footprint) :
    query.eval store registry = query.eval other registry := by
  simp only [eval, MatrixLookup.eval_congr h, h.applyToMatrix]

theorem VectorQuery.eval_congr {query : VectorQuery} (h : store.AgreesOn other query.footprint) :
    query.eval store registry = query.eval other registry := by
  cases query with
  | lookup source eltwise => simp only [eval, VectorLookup.eval_congr h, h.applyToVector]
  | reduced matrix reduction eltwise =>
    simp only [eval, MatrixQuery.eval_congr h, h.reduceColumns, h.applyToVector]

theorem ScalarQuery.eval_congr {query : ScalarQuery} (h : store.AgreesOn other query.footprint) :
    query.eval store registry = query.eval other registry := by
  cases query with
  | lookup source eltwise => simp only [eval, ScalarLookup.eval_congr h, h.applyToValue]
  | reduced vector reduction eltwise =>
    simp only [eval, VectorQuery.eval_congr h, h.reduceVector, h.applyToValue]

/-- Stores that show the same for all that a query reads give it the same outcome. -/
theorem Query.eval_congr {query : Query} (h : store.AgreesOn other query.footprint) :
    query.eval store registry = query.eval other registry := by
  cases query with
  | scalar query => simp only [eval, ScalarQuery.eval_congr h]
  | vector query => simp only [eval, VectorQuery.eval_congr h]
  | matrix query => simp only [eval, MatrixQuery.eval_congr h]

/-- A call that sets nothing that may be read leaves the stores alike. -/
theorem Store.agreesOn_of_perform {next : Store} {footprint : Footprint} {call : Call}
    (hstep : store.perform call = (.ok (), next)) (hunread : ¬ footprint.Reads call.key) :
    next.AgreesOn store footprint where
  name := name_of_perform hstep
  shown _ hread := agreesAt_of_perform hstep fun hkey => hunread (hkey ▸ hread)

/-- **Evaluation reads only what the query names.** A call that succeeds and sets nothing that the
query reads leaves its outcome as it is: the answer, that there is none, or the error. So do any
calls in a row, some of which may fail. The scalar, the matrix and the axes that are in the query
are read, and so are its properties along any axis, except for `name`, and the axes that the
properties before the last one of a chain may lead to. -/
theorem Query.eval_of_unread (query : Query) (store : Store) (registry : Registry) :
    (∀ call next, store.perform call = (.ok (), next) → ¬ query.footprint.Reads call.key →
      query.eval next registry = query.eval store registry) ∧
    ∀ calls, (∀ call ∈ calls, ¬ query.footprint.Reads call.key) →
      query.eval (store.run calls) registry = query.eval store registry := by
  have hstep : ∀ store call next, store.perform call = (.ok (), next) →
      ¬ query.footprint.Reads call.key → query.eval next registry = query.eval store registry :=
    fun _ _ _ hnext hunread => eval_congr (Store.agreesOn_of_perform hnext hunread)
  refine ⟨hstep store, fun calls hunread => ?_⟩
  induction calls generalizing store with
  | nil => rfl
  | cons call calls ih =>
    obtain ⟨hcall, hcalls⟩ := List.forall_mem_cons.1 hunread
    rw [Store.run]
    cases hnext : store.perform call with
    | mk outcome left =>
      cases outcome with
      | error error =>
        rw [Store.eq_of_perform_eq_error hnext]
        exact ih store hcalls
      | ok _ => exact (ih left hcalls).trans (hstep store call left hnext hcall)

/-- The colours of the clusters of genes do not depend on a vector called `name`, and neither on
another property, a scalar, a matrix or an axis that the query does not lead to. -/
theorem Query.eval_of_unread_chain : ∃ (store after : Store) (calls : List Call) (query : Query),
    query.text = "gene @ cluster.manual : color" ∧
      calls = [.setScalar "version" (.int 1), .setVector "cluster" "name" (.int [1, 2]),
        .setVector "gene" "score" (.int [1, 2]), .addAxis "cell" [],
        .setMatrix "gene" "cluster" "color" ⟨2, 2, .int [1, 2, 3, 4]⟩] ∧
      store.perform (.setVector "gene" "name" (.int [1, 2])) = (.ok (), after) ∧
      query.eval store .empty = .ok (some (.vector ⟨"gene", ["A", "B"], .string ["red", "blue"]⟩)) ∧
      query.eval after .empty = query.eval store .empty ∧
      query.eval (store.run calls) .empty = query.eval store .empty := by
  let store : Store := Store.run (.empty "data") [.addAxis "gene" ["A", "B"],
    .addAxis "cluster" ["x", "y"], .setVector "gene" "cluster.manual" (.string ["y", "x"]),
    .setVector "cluster" "color" (.string ["blue", "red"])]
  let query : Query := .vector (.lookup (.vector ⟨"gene", []⟩
    ⟨⟨"cluster.manual", ["color"]⟩, none, false⟩) [])
  obtain ⟨hcall, hcalls⟩ := query.eval_of_unread store .empty
  exact ⟨store, _, _, query, by decide, rfl, rfl, by decide,
    hcall (.setVector "gene" "name" (.int [1, 2])) _ rfl (by decide), hcalls _ (by decide)⟩

/-- An axis that is called like a property of a chain takes the place of the one that is called like
the part before the dot. -/
example :
    let store := Store.run (.empty "data") [.addAxis "gene" ["A"], .addAxis "cluster" ["x"],
      .setVector "gene" "cluster.manual" (.string ["x"]),
      .setVector "cluster" "color" (.string ["red"])]
    let query : Query := .vector (.lookup (.vector ⟨"gene", []⟩
      ⟨⟨"cluster.manual", ["color"]⟩, none, false⟩) [])
    query.footprint.Reads (.axis "cluster.manual") ∧
      query.eval store .empty = .ok (some (.vector ⟨"gene", ["A"], .string ["red"]⟩)) ∧
      query.eval (store.run [.addAxis "cluster.manual" []]) .empty =
        .error ⟨"data", .danglingValue "x" "cluster.manual" "gene" "cluster.manual"⟩ := by
  decide

end Queries

end Axial
