import Axial.Proofs.Chains

/-!
# Entries that the filters remove

A property is looked up for a whole axis before the entries that the filters keep are picked. So an
entry may make a vector query fail although the filters remove it, but only where a chain of
properties leads from it to no entry of the next axis: in all else it cannot differ from the entries
that are kept.

* `EvalError.IsDangling` : a value names no entry of the axis that it is followed to.
* `Store.exists_of_follow_eq_error`, `AxisLookup.failsWithin_of_values_eq_error` : if one value of a
  column can be followed to the end of a chain, then only a dangling value fails.
* `VectorQuery.eval_of_kept` : a vector query, if the queries of the entries that are kept have
  answers.
-/

namespace Axial

variable {store : Store}

/-- The item at the place of a result of a sequence. -/
theorem exists_getElem?_of_mapM_eq_ok_right {ε α β : Type} {f : α → Except ε β} {items : List α}
    {results : List β} (h : items.mapM f = .ok results) {i : Nat} {b : β}
    (hi : results[i]? = some b) : ∃ a, items[i]? = some a ∧ f a = .ok b := by
  have hrel := rel_getElem?_of_forall₂ (mapM_eq_ok.1 h) i
  rw [hi] at hrel
  generalize items[i]? = a? at hrel
  cases hrel with
  | some hab => exact ⟨_, rfl, hab⟩

/-! ### Dangling values -/

/-- A value of a chained property names no entry of the axis that the property leads to. -/
def EvalError.IsDangling (error : EvalError) (store : Store) : Prop :=
  ∃ value property axis target, store.LeadsTo property target ∧
    error = ⟨store.name, .danglingValue value property axis target⟩

/-- The place of the entry that a value of a chained property names. -/
def Store.place (store : Store) (axis property target : String) (entries : List String)
    (name : String) : Except EvalError Nat :=
  store.require (.danglingValue name property axis target) (entries.idxOf? name)

namespace Store

section Place

variable {axis property target name : String} {entries names : List String} {error : EvalError}

theorem place_eq_ok {i : Nat} :
    store.place axis property target entries name = .ok i ↔ entries.idxOf? name = some i :=
  require_eq_ok

theorem place_eq_error :
    store.place axis property target entries name = .error error ↔
      entries.idxOf? name = none ∧
        error = ⟨store.name, .danglingValue name property axis target⟩ := by
  cases hname : entries.idxOf? name <;> simp [place, require, refuse, hname, eq_comm]

/-- Names have no places only where one of them has none. -/
theorem exists_place_eq_error
    (h : names.mapM (store.place axis property target entries) = .error error) :
    ∃ (i : Nat) (name : String), names[i]? = some name ∧
      store.place axis property target entries name = .error error := by
  obtain ⟨before, name, after, rfl, -, hname⟩ := mapM_eq_error.1 h
  obtain ⟨i, hi⟩ := List.getElem?_of_mem (List.mem_append_right before List.mem_cons_self)
  exact ⟨i, name, hi, hname⟩

theorem lt_of_places {found : List Nat}
    (h : names.mapM (store.place axis property target entries) = .ok found) :
    ∀ i ∈ found, i < entries.length := by
  intro i hi
  obtain ⟨j, hj⟩ := List.getElem?_of_mem hi
  obtain ⟨name, -, hname⟩ := exists_getElem?_of_mapM_eq_ok_right h hj
  exact (List.getElem?_eq_some_iff.1 (getElem?_of_idxOf? (place_eq_ok.1 hname))).1

end Place

section Follow

variable {axis property next target : String} {rest entries : List String} {all : Column}
  (htarget : store.linkedAxis? property = some target)
  (hentries : store.entries? target = some entries) (hall : store.property target next = .ok all)

include htarget hentries hall

/-- Names are followed to the properties of the entries that they name. -/
theorem follow_string (names : List String) :
    store.follow axis property (.string names) (next :: rest) = (do
      let found ← names.mapM (store.place axis property target entries)
      let values ← store.require .outOfRange (all.select? found)
      store.follow target next values rest) := by
  simp only [follow, htarget, requireEntries, hentries, hall, require, ok_bind]
  rfl

theorem follow_name {name : String} {i : Nat} {start : Value}
    (hi : entries.idxOf? name = some i) (hstart : all.get? i = some start) :
    store.follow axis property (.ofValue (.string name)) (next :: rest) =
      store.follow target next (.ofValue start) rest := by
  rw [Column.ofValue, follow_string htarget hentries hall]
  simp [place, hi, Column.select?_singleton hstart, require]

theorem follow_dangling {name : String} {error : EvalError}
    (h : store.place axis property target entries name = .error error) :
    store.follow axis property (.ofValue (.string name)) (next :: rest) = .error error := by
  rw [Column.ofValue, follow_string htarget hentries hall]
  simp [h]

end Follow

/-- If one value of a column is followed to the end of a chain, the column fails only with a
dangling value, and one of its values fails alike. -/
theorem exists_of_follow_eq_error (hstore : store.WellFormed) {axis property : String}
    {rest : List String} {values last : Column} {k : Nat} {value : Value} {error : EvalError}
    (hk : values.get? k = some value)
    (hvalue : store.follow axis property (.ofValue value) rest = .ok last)
    (h : store.follow axis property values rest = .error error) :
    error.IsDangling store ∧ ∃ i other, values.get? i = some other ∧
      store.follow axis property (.ofValue other) rest = .error error := by
  induction rest generalizing axis property values k value with
  | nil => cases h
  | cons next rest ih =>
    -- the value that is followed tells the axis and its entries
    obtain ⟨name, target, start, rfl, hleads, hstart, hlast⟩ := follow_ofValue_eq_ok.1 hvalue
    obtain ⟨index, all, hindex, hall, hstart⟩ := AxisLookup.valueAt_single_eq_ok.1 hstart
    obtain ⟨entries, hentries, hindex⟩ := entryIndex_eq_ok.1 hindex
    have htarget := linkedAxis?_eq_some.2 hleads
    obtain ⟨names, rfl⟩ : ∃ names, values = .string names := by
      cases values with
      | string names => exact ⟨names, rfl⟩
      | _ => simp [Column.get?] at hk
    rw [follow_string htarget hentries hall] at h
    cases hfound : names.mapM (store.place axis property target entries) with
    | error e =>
      rw [hfound] at h
      cases h
      obtain ⟨i, other, hi, hother⟩ := exists_place_eq_error hfound
      exact ⟨⟨other, property, axis, target, hleads, (place_eq_error.1 hother).2⟩, i,
        .string other, congrArg (Option.map Value.string) hi,
        follow_dangling htarget hentries hall hother⟩
    | ok found =>
      have hlength := length_eq_of_property hstore hentries hall
      have hrange : ∀ i ∈ found, i < all.length := hlength ▸ lt_of_places hfound
      have hk' : (all.gather found).get? k = some start := by
        have hname : names[k]? = some name := by simpa [Column.get?] using hk
        obtain ⟨j, hj, hplace⟩ := exists_getElem?_of_mapM_eq_ok hfound hname
        cases hindex.symm.trans (place_eq_ok.1 hplace)
        rw [Column.get?_gather hrange, hj, Option.bind_some, hstart]
      rw [hfound, ok_bind, Column.select?_eq_some_iff.2 ⟨hrange, rfl⟩, require, ok_bind] at h
      obtain ⟨hdangling, i, other, hi, herror⟩ := ih hk' hlast h
      rw [Column.get?_gather hrange] at hi
      obtain ⟨j, hj, hother⟩ := Option.bind_eq_some_iff.1 hi
      -- the place that is found is that of the entry that the value there names
      obtain ⟨name', hname', hplace⟩ := exists_getElem?_of_mapM_eq_ok_right hfound hj
      refine ⟨hdangling, i, .string name', congrArg (Option.map Value.string) hname', ?_⟩
      rw [follow_name htarget hentries hall (place_eq_ok.1 hplace) hother, herror]

end Store

namespace AxisLookup

variable {lookup : AxisLookup}

/-- A lookup fails along an axis: a value of its chain dangles, and what is computed for some entry
of the axis fails with the same error. -/
structure FailsWithin {α : Type} (lookup : AxisLookup) (store : Store) (entries : List String)
    (f : String → Except EvalError α) (error : EvalError) : Prop where
  dangling : error.IsDangling store
  rest_ne_nil : lookup.property.rest ≠ []
  exists_entry : ∃ entry ∈ entries, f entry = .error error

theorem FailsWithin.imp {α β : Type} {entries : List String} {f : String → Except EvalError α}
    {g : String → Except EvalError β} {error : EvalError}
    (h : lookup.FailsWithin store entries f error)
    (hfg : ∀ entry, f entry = .error error → g entry = .error error) :
    lookup.FailsWithin store entries g error where
  dangling := h.dangling
  rest_ne_nil := h.rest_ne_nil
  exists_entry := by
    obtain ⟨entry, hentry, hf⟩ := h.exists_entry
    exact ⟨entry, hentry, hfg entry hf⟩

/-- If the value of one entry can be looked up, the values of the axis fail only with a dangling
value, and the value of some entry fails alike. -/
theorem failsWithin_of_values_eq_error (hstore : store.WellFormed) {axis : String}
    {entries : List String} {entry : String} {value : Value} {error : EvalError}
    (hentries : store.entries? axis = some entries)
    (hvalue : lookup.valueAt store ⟨axis, entry⟩ = .ok value)
    (h : lookup.values store axis = .error error) :
    lookup.FailsWithin store entries (fun other => lookup.valueAt store ⟨axis, other⟩) error := by
  obtain ⟨k, all, last, hk, hall, hrange, hlast, -⟩ := valueAt_eq_ok.1 hvalue
  obtain ⟨first, hfirst⟩ := Column.exists_get? hrange
  rw [Column.gather_singleton hfirst] at hlast
  obtain ⟨followed, hfollowed, hfinish⟩ := bind_eq_ok.1 hlast
  rw [values, hall, ok_bind, valuesFrom] at h
  cases hcolumn : store.follow axis lookup.property.first all lookup.property.rest with
  | ok column =>
    -- the end of the chain is told by the type of the values, which all values share
    have hone := Store.follow_gather hcolumn [k]
    rw [Column.gather_singleton hfirst, hfollowed, Except.ok.injEq] at hone
    obtain ⟨result, hresult⟩ := lookup.exists_finish_of_type hfinish
      (by rw [hone, Column.type_gather] : column.type = followed.type)
    rw [hcolumn, ok_bind, hresult] at h
    cases h
  | error e =>
    rw [hcolumn] at h
    cases h
    obtain ⟨hdangling, i, start, hi, herror⟩ :=
      Store.exists_of_follow_eq_error hstore hfirst hfollowed hcolumn
    have hlength := Store.length_eq_of_property hstore hentries hall
    obtain ⟨other, hother⟩ : ∃ other, entries[i]? = some other :=
      ⟨_, List.getElem?_eq_getElem (hlength ▸ Column.lt_of_get? hi)⟩
    refine ⟨hdangling, fun hrest => ?_, other, List.mem_of_getElem? hother, ?_⟩
    · rw [hrest] at hcolumn
      cases hcolumn
    · have hindex := Store.entryIndex_of_getElem? hstore hentries hother
      rw [valueAt, hindex, ok_bind, hall, ok_bind, Column.select?_singleton hi, Store.require,
        ok_bind, valuesFrom, herror, error_bind, error_bind]

end AxisLookup

/-! ### Queries -/

section Queries

variable {registry : Registry} {filtered : FilteredAxis} {lookup : AxisLookup}
  {eltwise : List Invocation} {entries : List String}

/-- A property that has values for all entries is picked for those that are kept. -/
theorem VectorQuery.exists_eval_of_values (hstore : store.WellFormed) {mask : List Bool}
    {values : Column} {entry : String} {value : Value} (hmask : filtered.mask store = .ok mask)
    (hkept : true ∈ mask) (hentries : store.entries? filtered.axis = some entries)
    (hentry : entry ∈ entries) (hvalues : lookup.values store filtered.axis = .ok values)
    (hvalue : (ScalarQuery.lookup (.vectorEntry ⟨filtered.axis, entry⟩ lookup) eltwise).eval store
      registry = .ok (some value)) :
    ∃ vector, (VectorQuery.lookup (.vector filtered lookup) eltwise).eval store registry =
      .ok (some vector) := by
  have hlength := lookup.length_eq_of_values hstore hentries hvalues
  have hindices := FilteredAxis.indices_eq_ok.2 ⟨mask, hmask, .inr ⟨.inr hkept, rfl⟩⟩
  have hrange : ∀ i ∈ keptIndices mask, i < entries.length := by
    obtain ⟨-, rfl⟩ := FilteredAxis.mask_eq_map hstore hentries hmask
    intro i hi
    simpa using (keptIndices_sublist _).subset hi
  have hlooked := VectorLookup.vector_eq_some.2 ⟨_, values, hindices, hvalues,
    Store.nameVector_eq_ok.2 ⟨entries, hentries, hrange, hlength ▸ hrange, rfl⟩⟩
  -- operations are told by the type of the values, which the value of the entry shares
  obtain ⟨i, hi⟩ := List.getElem?_of_mem hentry
  obtain ⟨looked, hlookedAt, hat⟩ := lookup.valueAt_of_values hstore hentries hvalues hi
  obtain ⟨_, hat', happly⟩ := ScalarQuery.lookup_eq_some.1 hvalue
  cases hat.symm.trans hat'
  obtain ⟨_, hone⟩ := Registry.exists_applyToColumn_of_applyToValue happly
  obtain ⟨results, hresults⟩ := Registry.exists_applyToColumn_of_type hone
    (by rw [← Column.gather_singleton hlookedAt, Column.type_gather, Column.type_gather] :
      (values.gather (keptIndices mask)).type = (Column.ofValue looked).type)
  exact ⟨_, lookup_eq_some.2 ⟨_, hlooked, Registry.applyToVector_eq_ok.2 ⟨results, hresults, rfl⟩⟩⟩

/-- A vector query that has an answer has looked up the property of every entry. -/
theorem VectorQuery.exists_eval_entry (hstore : store.WellFormed) {vector : NamedVector}
    {entry : String} (hentries : store.entries? filtered.axis = some entries)
    (hentry : entry ∈ entries)
    (h : (VectorQuery.lookup (.vector filtered lookup) eltwise).eval store registry =
      .ok (some vector)) :
    ∃ value, (ScalarQuery.lookup (.vectorEntry ⟨filtered.axis, entry⟩ lookup) eltwise).eval store
      registry = .ok (some value) := by
  obtain ⟨looked, hlooked, happly⟩ := lookup_eq_some.1 h
  obtain ⟨indices, values, -, hvalues, hnamed⟩ := VectorLookup.vector_eq_some.1 hlooked
  obtain ⟨_, -, -, -, rfl⟩ := Store.nameVector_eq_ok.1 hnamed
  obtain ⟨_, hkept, -⟩ := Registry.applyToVector_eq_ok.1 happly
  obtain ⟨results, hresults⟩ := Registry.exists_applyToColumn_of_type hkept
    (Column.type_gather values indices).symm
  obtain ⟨i, hi⟩ := List.getElem?_of_mem hentry
  obtain ⟨value, hvalue, hat⟩ := lookup.valueAt_of_values hstore hentries hvalues hi
  obtain ⟨result, -, hresult⟩ := Registry.applyToValue_of_applyToColumn hresults hvalue
  exact ⟨result, ScalarQuery.lookup_eq_some.2 ⟨value, hat, hresult⟩⟩

/-- A vector query that fails although the query of a kept entry has an answer fails with a
dangling value, as does the query of some entry. -/
theorem VectorQuery.exists_eval_or_dangling (hstore : store.WellFormed) {mask : List Bool}
    {entry : String} {value : Value} (hmask : filtered.mask store = .ok mask)
    (hkept : true ∈ mask) (hentries : store.entries? filtered.axis = some entries)
    (hentry : entry ∈ entries)
    (hvalue : (ScalarQuery.lookup (.vectorEntry ⟨filtered.axis, entry⟩ lookup) eltwise).eval store
      registry = .ok (some value)) :
    (∃ vector, (VectorQuery.lookup (.vector filtered lookup) eltwise).eval store registry =
        .ok (some vector)) ∨
      ∃ error, (VectorQuery.lookup (.vector filtered lookup) eltwise).eval store registry =
          .error error ∧
        lookup.FailsWithin store entries (fun other => (ScalarQuery.lookup
          (.vectorEntry ⟨filtered.axis, other⟩ lookup) eltwise).eval store registry) error := by
  cases hvalues : lookup.values store filtered.axis with
  | ok values =>
    exact .inl (exists_eval_of_values hstore hmask hkept hentries hentry hvalues hvalue)
  | error error =>
    obtain ⟨_, hat, -⟩ := ScalarQuery.lookup_eq_some.1 hvalue
    have hfails := AxisLookup.failsWithin_of_values_eq_error hstore hentries hat hvalues
    have hindices := FilteredAxis.indices_eq_ok.2 ⟨mask, hmask, .inr ⟨.inr hkept, rfl⟩⟩
    refine .inr ⟨error, ?_, hfails.imp fun other herror => ?_⟩
    · simp only [eval, VectorLookup.eval, hindices, hvalues, ok_bind, error_bind]
    · simp only [ScalarQuery.eval, ScalarLookup.eval, herror, error_bind]

end Queries

/-- **An entry that the filters remove makes a vector query fail only by a dangling value.** Let the
filters of an axis be evaluated and keep some entries, and the query of each kept entry have an
answer. Then the vector query has an answer if and only if the queries of the other entries have
one too, which they always have if the property is a single one. Otherwise the vector query fails
with the error of the query of a removed entry: a value of a chained property that names no entry
of the axis that the property leads to. -/
theorem VectorQuery.eval_of_kept {store : Store} {registry : Registry} {filtered : FilteredAxis}
    {lookup : AxisLookup} {eltwise : List Invocation} {mask : List Bool} {entries : List String}
    (hstore : store.Reachable) (hmask : filtered.mask store = .ok mask) (hkept : true ∈ mask)
    (hentries : store.entries? filtered.axis = some entries)
    (h : ∀ entry ∈ entries, filtered.keeps store entry = true → ∃ value,
      (ScalarQuery.lookup (.vectorEntry ⟨filtered.axis, entry⟩ lookup) eltwise).eval store
        registry = .ok (some value)) :
    ((∃ vector, (VectorQuery.lookup (.vector filtered lookup) eltwise).eval store registry =
        .ok (some vector)) ↔
      ∀ entry ∈ entries, filtered.keeps store entry = false → ∃ value,
        (ScalarQuery.lookup (.vectorEntry ⟨filtered.axis, entry⟩ lookup) eltwise).eval store
          registry = .ok (some value)) ∧
    (lookup.property.rest = [] →
      ∃ vector, (VectorQuery.lookup (.vector filtered lookup) eltwise).eval store registry =
        .ok (some vector)) ∧
    ((∃ vector, (VectorQuery.lookup (.vector filtered lookup) eltwise).eval store registry =
        .ok (some vector)) ∨
      ∃ error, (VectorQuery.lookup (.vector filtered lookup) eltwise).eval store registry =
          .error error ∧
        error.IsDangling store ∧ ∃ entry ∈ entries, filtered.keeps store entry = false ∧
          (ScalarQuery.lookup (.vectorEntry ⟨filtered.axis, entry⟩ lookup) eltwise).eval store
            registry = .error error) := by
  have hwell := hstore.wellFormed
  obtain ⟨entry, hentry, hkeeps⟩ : ∃ entry ∈ entries, filtered.keeps store entry = true := by
    obtain ⟨-, rfl⟩ := FilteredAxis.mask_eq_map hwell hentries hmask
    exact List.mem_map.1 hkept
  obtain ⟨value, hvalue⟩ := h entry hentry hkeeps
  rcases exists_eval_or_dangling hwell hmask hkept hentries hentry hvalue with
    hanswer | ⟨error, herror, hdangling, hrest, other, hother, hfails⟩
  · refine ⟨iff_of_true hanswer fun other hother _ => ?_, fun _ => hanswer, .inl hanswer⟩
    obtain ⟨_, hvector⟩ := hanswer
    exact exists_eval_entry hwell hentries hother hvector
  · have hremoved : filtered.keeps store other = false := by
      refine Bool.eq_false_iff.2 fun hkeeps => ?_
      obtain ⟨_, hother⟩ := h other hother hkeeps
      cases hother.symm.trans hfails
    refine ⟨iff_of_false ?_ fun hall => ?_, fun hsingle => absurd hsingle hrest,
      .inr ⟨error, herror, hdangling, other, hother, hremoved, hfails⟩⟩
    · rintro ⟨vector, hvector⟩
      cases hvector.symm.trans herror
    · obtain ⟨_, hother⟩ := hall other hother hremoved
      cases hother.symm.trans hfails

/-- The ages of the batches of some cells, if a cell that is left out has no known batch: the
batches are told, the ages are not. -/
theorem VectorQuery.eval_of_kept_batches : ∃ store filtered,
    store.Reachable ∧
      VectorQuery.parse .builtin "cell & name = x @ batch" =
        .ok (.lookup (.vector filtered ⟨⟨"batch", []⟩, none, false⟩) []) ∧
      filtered.mask store = .ok [true, false] ∧
      (∀ entry ∈ ["x", "y"], filtered.keeps store entry = true → ∃ value,
        (ScalarQuery.lookup (.vectorEntry ⟨filtered.axis, entry⟩ ⟨⟨"batch", []⟩, none, false⟩)
          []).eval store .builtin = .ok (some value)) ∧
      ∃ vector, (VectorQuery.lookup (.vector filtered ⟨⟨"batch", []⟩, none, false⟩) []).eval store
        .builtin = .ok (some vector) := by
  let filtered : FilteredAxis := ⟨"cell", [⟨.and, ⟨⟨"name", []⟩, some ⟨.equal, "x"⟩, false⟩⟩]⟩
  let store : Store := (Store.empty "data").run [.addAxis "cell" ["x", "y"],
    .addAxis "batch" ["U"], .setVector "cell" "batch" (.string ["U", "Z"]),
    .setVector "batch" "age" (.int [1])]
  have hreachable : store.Reachable := (Store.Reachable.empty "data").run (by decide)
  have hparse : (VectorQuery.parse .builtin "cell & name = x @ batch").toOption =
      some (.lookup (.vector filtered ⟨⟨"batch", []⟩, none, false⟩) []) := by
    decide +kernel
  have hmask : (filtered.mask store).toOption = some [true, false] := by
    decide +kernel
  have hentry : ∀ entry ∈ ["x", "y"], filtered.keeps store entry = true →
      ((ScalarQuery.lookup (.vectorEntry ⟨filtered.axis, entry⟩ ⟨⟨"batch", []⟩, none, false⟩)
        []).eval store .builtin).toOption = some (some (.string "U")) := by
    decide +kernel
  simp only [toOption_eq_some] at hparse hmask hentry
  have hkept : ∀ entry ∈ ["x", "y"], filtered.keeps store entry = true → ∃ value,
      (ScalarQuery.lookup (.vectorEntry ⟨filtered.axis, entry⟩ ⟨⟨"batch", []⟩, none, false⟩)
        []).eval store .builtin = .ok (some value) :=
    fun entry hmem hkeeps => ⟨_, hentry entry hmem hkeeps⟩
  obtain ⟨-, hsingle, -⟩ := eval_of_kept hreachable hmask (by decide) rfl hkept
  exact ⟨store, filtered, hreachable, hparse, hmask, hkept, hsingle rfl⟩

/-- A chain that leads from the cell that is kept to an age, and from the cell that is left out to
no batch. -/
theorem VectorQuery.eval_dangling_removed : ∃ store filtered,
    store.Reachable ∧
      ScalarQuery.parse .builtin "cell = x @ batch : age" =
        .ok (.lookup (.vectorEntry ⟨"cell", "x"⟩ ⟨⟨"batch", ["age"]⟩, none, false⟩) []) ∧
      VectorQuery.parse .builtin "cell & name = x @ batch : age" =
        .ok (.lookup (.vector filtered ⟨⟨"batch", ["age"]⟩, none, false⟩) []) ∧
      store.entries? filtered.axis = some ["x", "y"] ∧
      filtered.mask store = .ok [true, false] ∧
      (∀ entry ∈ ["x", "y"], filtered.keeps store entry = true →
        entry = "x" ∧ (ScalarQuery.lookup (.vectorEntry ⟨filtered.axis, entry⟩
          ⟨⟨"batch", ["age"]⟩, none, false⟩) []).eval store .builtin = .ok (some (.int 1))) ∧
      (VectorQuery.lookup (.vector filtered ⟨⟨"batch", ["age"]⟩, none, false⟩) []).eval store
        .builtin = .error ⟨"data", .danglingValue "Z" "batch" "cell" "batch"⟩ := by
  let filtered : FilteredAxis := ⟨"cell", [⟨.and, ⟨⟨"name", []⟩, some ⟨.equal, "x"⟩, false⟩⟩]⟩
  let store : Store := (Store.empty "data").run [.addAxis "cell" ["x", "y"],
    .addAxis "batch" ["U"], .setVector "cell" "batch" (.string ["U", "Z"]),
    .setVector "batch" "age" (.int [1])]
  have hreachable : store.Reachable := (Store.Reachable.empty "data").run (by decide)
  have hparse : (ScalarQuery.parse .builtin "cell = x @ batch : age").toOption =
      some (.lookup (.vectorEntry ⟨"cell", "x"⟩ ⟨⟨"batch", ["age"]⟩, none, false⟩) []) := by
    decide +kernel
  have hparse' : (VectorQuery.parse .builtin "cell & name = x @ batch : age").toOption =
      some (.lookup (.vector filtered ⟨⟨"batch", ["age"]⟩, none, false⟩) []) := by
    decide +kernel
  have hmask : (filtered.mask store).toOption = some [true, false] := by
    decide +kernel
  have hentry : ∀ entry ∈ ["x", "y"], filtered.keeps store entry = true → entry = "x" ∧
      ((ScalarQuery.lookup (.vectorEntry ⟨filtered.axis, entry⟩ ⟨⟨"batch", ["age"]⟩, none, false⟩)
        []).eval store .builtin).toOption = some (some (.int 1)) := by
    decide +kernel
  have herror : (VectorQuery.lookup (.vector filtered ⟨⟨"batch", ["age"]⟩, none, false⟩) []).eval
      store .builtin = .error ⟨"data", .danglingValue "Z" "batch" "cell" "batch"⟩ := by
    decide +kernel
  simp only [toOption_eq_some] at hparse hparse' hmask hentry
  exact ⟨store, filtered, hreachable, hparse, hparse', rfl, hmask, hentry, herror⟩

end Axial
