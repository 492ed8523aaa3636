import Axial.Operation.Builtin
import Axial.Proofs.Cells
import Axial.Proofs.Success

/-!
# Filtered vectors, entry by entry

A vector is evaluated a column at a time: whole properties are looked up and followed, masks are
combined, and the kept values are picked. The query of a single entry takes its value out of the
first property and goes on with that one alone. Both give the same, since every step on the way
treats each value of a column on its own.

* `Pointwise` : a computation on columns that may as well be done value by value.
* `Store.pointwise_follow`, `AxisLookup.pointwise_finish`, `Registry.pointwise_applyToColumn` : the
  steps of the evaluation.
* `AxisFilter.holdsAt`, `FilteredAxis.keeps` : whether a filter holds of an entry, and whether all
  filters of an axis keep it.
* `VectorQuery.eval_eq_entries` : the answer to a vector query, entry by entry.
-/

namespace Axial

/-! ### Pointwise computations -/

/-- A computation on columns treats every value on its own: there are as many values after it, and
they are the same whether some are picked before it or after it. -/
structure Pointwise (f : Column → Except EvalError Column) : Prop where
  length_eq : ∀ {values result}, f values = .ok result → result.length = values.length
  gather : ∀ {values result}, f values = .ok result →
    ∀ indices, f (values.gather indices) = .ok (result.gather indices)

section Pointwise

variable {f g : Column → Except EvalError Column}

theorem Pointwise.bind (hf : Pointwise f) (hg : Pointwise g) :
    Pointwise fun values => f values >>= g where
  length_eq h := by
    obtain ⟨between, hbetween, h⟩ := bind_eq_ok.1 h
    exact (hg.length_eq h).trans (hf.length_eq hbetween)
  gather h indices := by
    obtain ⟨between, hbetween, h⟩ := bind_eq_ok.1 h
    rw [hf.gather hbetween, ok_bind, hg.gather h]

/-- What becomes of a single value does not depend on the others. -/
theorem Pointwise.exists_get? (hf : Pointwise f) {values result : Column} {i : Nat} {value : Value}
    (h : f values = .ok result) (hi : values.get? i = some value) :
    ∃ value', result.get? i = some value' ∧ f (.ofValue value) = .ok (.ofValue value') := by
  have hlt : i < result.length := by
    rw [hf.length_eq h]
    exact Column.lt_of_get? hi
  obtain ⟨value', hvalue'⟩ := Column.exists_get? hlt
  have hgather := hf.gather h [i]
  rw [Column.gather_singleton hi, Column.gather_singleton hvalue'] at hgather
  exact ⟨value', hvalue', hgather⟩

end Pointwise

/-! ### Properties -/

section Properties

variable {store : Store} {axis : String} {values : Column}

/-- The index of an entry is its place along the axis. -/
theorem Store.entryIndex_of_getElem? (hstore : store.WellFormed) {entry : String}
    {entries : List String} {i : Nat} (hentries : store.entries? axis = some entries)
    (hi : entries[i]? = some entry) : store.entryIndex ⟨axis, entry⟩ = .ok i :=
  entryIndex_eq_ok.2
    ⟨entries, hentries, idxOf?_of_getElem? (hstore.nodup axis entries hentries) hi⟩

theorem Store.follow_gather {property : String} {rest : List String} {last : Column}
    (h : store.follow axis property values rest = .ok last) (indices : List Nat) :
    store.follow axis property (values.gather indices) rest = .ok (last.gather indices) := by
  -- each property of the chain is looked up along another axis, so the axis varies
  induction rest generalizing axis property values with
  | nil =>
    cases h
    rfl
  | cons next rest ih =>
    obtain ⟨names, target, entries, found, all, rfl, htarget, hentries, hfound, hall, hrange, h⟩ :=
      follow_cons_eq_ok.1 h
    -- the names that are picked stand for the places that are picked
    have hfound' := Column.forall₂_pick hfound indices
    have hrange' : ∀ i ∈ Column.pick found indices, i < all.length :=
      fun i hi => hrange i (Column.mem_of_mem_pick hi)
    replace h := ih h
    rw [Column.gather_gather hrange] at h
    exact follow_cons_eq_ok.2 ⟨_, target, entries, _, all, rfl, htarget, hentries, hfound', hall,
      hrange', h⟩

theorem Store.pointwise_follow (hstore : store.WellFormed) (axis property : String)
    (rest : List String) : Pointwise fun values => store.follow axis property values rest where
  length_eq h := (yields_follow hstore axis property _ rest).of_eq_ok h
  gather h := follow_gather h

theorem Column.compareTo?_gather {literal : String} {orderings : List (Option Ordering)}
    (h : values.compareTo? literal = some orderings) (indices : List Nat) :
    (values.gather indices).compareTo? literal = some (pick orderings indices) := by
  cases values with
  | string texts =>
    cases h
    exact congrArg some (pick_map ..).symm
  | _ =>
    obtain ⟨read, hread, rfl⟩ := Option.map_eq_some_iff.1 h
    rw [gather, compareTo?, hread, Option.map_some, pick_map]

theorem PropertyTest.outcomes_gather {test : PropertyTest} {property : PropertyChain}
    {outcomes : List Bool} (h : test.outcomes store axis property values = .ok outcomes)
    (indices : List Nat) :
    test.outcomes store axis property (values.gather indices) =
      .ok (Column.pick outcomes indices) := by
  unfold PropertyTest.outcomes at h ⊢
  split at h
  · next hpattern =>
    rw [if_pos hpattern]
    cases values with
    | string texts =>
      obtain ⟨regex, hregex, h⟩ := bind_eq_ok.1 h
      cases h
      simp only [Column.gather, hregex, ok_bind, pure_eq_ok, Column.pick_map]
    | _ => cases h
  · next hpattern =>
    rw [if_neg hpattern]
    obtain ⟨orderings, horderings, h⟩ := bind_eq_ok.1 h
    cases h
    rw [Store.require_eq_ok] at horderings
    rw [bind_eq_ok]
    exact ⟨_, Store.require_eq_ok.2 (Column.compareTo?_gather horderings indices),
      congrArg Except.ok (Column.pick_map ..).symm⟩

namespace AxisLookup

variable (lookup : AxisLookup)

theorem finish_gather {result : Column} (h : lookup.finish store axis values = .ok result)
    (indices : List Nat) :
    lookup.finish store axis (values.gather indices) = .ok (result.gather indices) := by
  unfold finish at h ⊢
  split at h
  · next hinverted =>
    rw [if_pos hinverted]
    cases values with
    | bool bs =>
      cases h
      simp only [Column.gather, pure_eq_ok, Column.pick_map]
    | _ => cases h
  · next hinverted =>
    rw [if_neg hinverted]
    split at h
    · next hnone =>
      cases h
      rfl
    · next test htest =>
      obtain ⟨outcomes, houtcomes, h⟩ := bind_eq_ok.1 h
      cases h
      rw [PropertyTest.outcomes_gather houtcomes indices]
      rfl

theorem pointwise_finish (axis : String) : Pointwise (lookup.finish store axis) where
  length_eq h := (lookup.yields_finish axis _).of_eq_ok h
  gather h := lookup.finish_gather h

theorem pointwise_valuesFrom (hstore : store.WellFormed) (axis : String) :
    Pointwise (lookup.valuesFrom store axis) :=
  (Store.pointwise_follow hstore axis lookup.property.first lookup.property.rest).bind
    (lookup.pointwise_finish axis)

/-- The values along an axis are the values for its entries. -/
theorem valueAt_of_values (hstore : store.WellFormed) {entries : List String} {entry : String}
    {i : Nat} (hentries : store.entries? axis = some entries)
    (hvalues : lookup.values store axis = .ok values) (hi : entries[i]? = some entry) :
    ∃ value, values.get? i = some value ∧ lookup.valueAt store ⟨axis, entry⟩ = .ok value := by
  obtain ⟨all, hall, hfrom⟩ := bind_eq_ok.1 hvalues
  have hlength := Store.length_eq_of_property hstore hentries hall
  have hlt : i < all.length := by
    rw [← hlength]
    exact (List.getElem?_eq_some_iff.1 hi).1
  obtain ⟨first, hfirst⟩ := Column.exists_get? hlt
  obtain ⟨value, hvalue, hone⟩ :=
    (lookup.pointwise_valuesFrom hstore axis).exists_get? hfrom hfirst
  refine ⟨value, hvalue, valueAt_eq_ok.2 ⟨i, all, .ofValue value, ?_, hall, hlt, ?_, ?_⟩⟩
  · exact Store.entryIndex_of_getElem? hstore hentries hi
  · rw [Column.gather_singleton hfirst]
    exact hone
  · exact Column.get?_ofValue value

end AxisLookup

end Properties

/-! ### Filters -/

/-- Whether a filter holds of an entry. -/
def AxisFilter.holdsAt (filter : AxisFilter) (store : Store) (entry : AxisEntry) : Bool :=
  match filter.lookup.valueAt store entry with
  | .ok (.bool b) => b
  | _ => false

/-- Whether the filters of an axis keep an entry: what they say of it, combined from left to
right. -/
def FilteredAxis.keeps (filtered : FilteredAxis) (store : Store) (entry : String) : Bool :=
  filtered.filters.foldl (fun kept filter =>
    filter.combinator.combine kept (filter.holdsAt store ⟨filtered.axis, entry⟩)) true

section Filters

variable {store : Store} (hstore : store.WellFormed) {axis : String} {entries : List String}
  (hentries : store.entries? axis = some entries)

include hstore hentries

theorem AxisFilter.valueAt_of_bits {filter : AxisFilter} {bits : List Bool} {i : Nat}
    {entry : String} (hbits : filter.bits store axis = .ok bits) (hi : entries[i]? = some entry) :
    filter.lookup.valueAt store ⟨axis, entry⟩ = .ok (.bool (filter.holdsAt store ⟨axis, entry⟩)) ∧
      bits[i]? = some (filter.holdsAt store ⟨axis, entry⟩) := by
  obtain ⟨value, hvalue, hat⟩ :=
    filter.lookup.valueAt_of_values hstore hentries (bits_eq_ok.1 hbits) hi
  obtain ⟨b, hb, rfl⟩ := Option.map_eq_some_iff.1 hvalue
  have hholds : filter.holdsAt store ⟨axis, entry⟩ = b := by
    rw [holdsAt, hat]
  rw [hholds]
  exact ⟨hat, hb⟩

theorem AxisFilter.bits_eq_map {filter : AxisFilter} {bits : List Bool}
    (hbits : filter.bits store axis = .ok bits) :
    bits = entries.map fun entry => filter.holdsAt store ⟨axis, entry⟩ := by
  have hlength : entries.length = bits.length :=
    Store.length_eq_of_entries? hentries ((filter.yields_bits hstore axis).of_eq_ok hbits)
  refine List.ext_getElem? fun i => ?_
  rw [List.getElem?_map]
  cases hi : entries[i]? with
  | none =>
    rw [List.getElem?_eq_none_iff] at hi
    exact List.getElem?_eq_none_iff.2 (by omega)
  | some entry => exact (valueAt_of_bits hstore hentries hbits hi).2

/-- Filters in a row: each tells a truth value of every entry, and what they leave of a mask is
what they leave of it for each entry. -/
theorem AxisFilter.foldlM_eq_ok {filters : List AxisFilter} {before : String → Bool}
    {mask : List Bool} (h : filters.foldlM (fun mask filter => do
        let bits ← filter.bits store axis
        return List.zipWith filter.combinator.combine mask bits) (entries.map before) = .ok mask) :
    (∀ filter ∈ filters, ∃ bits, filter.bits store axis = .ok bits) ∧
      mask = entries.map fun entry => filters.foldl (fun kept filter =>
        filter.combinator.combine kept (filter.holdsAt store ⟨axis, entry⟩)) (before entry) := by
  -- the mask before the filters that are left is a function of the entries
  induction filters generalizing before with
  | nil =>
    cases h
    exact ⟨nofun, rfl⟩
  | cons filter filters ih =>
    obtain ⟨next, hnext, h⟩ := bind_eq_ok.1 h
    obtain ⟨bits, hbits, hzip⟩ := bind_eq_ok.1 hnext
    cases hzip
    rw [bits_eq_map hstore hentries hbits, List.zipWith_map, List.zipWith_self] at h
    obtain ⟨hrest, hmask⟩ := ih h
    refine ⟨fun other hother => ?_, hmask⟩
    rcases List.mem_cons.1 hother with rfl | hother
    · exact ⟨bits, hbits⟩
    · exact hrest other hother

omit hentries

theorem FilteredAxis.mask_eq_map {filtered : FilteredAxis} {mask : List Bool}
    (hentries : store.entries? filtered.axis = some entries) (h : filtered.mask store = .ok mask) :
    (∀ filter ∈ filtered.filters, ∃ bits, filter.bits store filtered.axis = .ok bits) ∧
      mask = entries.map (filtered.keeps store) := by
  obtain ⟨found, hfound, hfold⟩ := mask_eq_ok.1 h
  obtain rfl : found = entries := Option.some.inj (hfound.symm.trans hentries)
  exact AxisFilter.foldlM_eq_ok hstore hentries hfold

omit hstore

/-- An axis without filters is asked for with all its entries. -/
theorem FilteredAxis.indices_unfiltered (hentries : store.entries? axis = some entries) :
    (FilteredAxis.mk axis []).indices store = .ok (some (List.range entries.length)) :=
  indices_eq_ok.2 ⟨_, mask_eq_ok.2 ⟨entries, hentries, rfl⟩,
    .inr ⟨.inl rfl, by rw [Column.keptIndices_map_true]⟩⟩

end Filters

/-! ### Operations -/

namespace Registry

variable {registry : Registry} {store : Store} {eltwise : List Invocation}

theorem pointwise_applyToColumn (registry : Registry) (store : Store) (eltwise : List Invocation) :
    Pointwise (registry.applyToColumn store eltwise) where
  length_eq {values result} h := by
    cases eltwise with
    | nil =>
      cases h
      rfl
    | cons first eltwise =>
      obtain ⟨numbers, f, hnumbers, -, rfl⟩ := applyToColumn_cons_eq_ok.1 h
      exact (List.length_map f).trans (Column.length_of_toFloats? hnumbers)
  gather {values result} h indices := by
    cases eltwise with
    | nil =>
      cases h
      rfl
    | cons first eltwise =>
      obtain ⟨numbers, f, hnumbers, hf, rfl⟩ := applyToColumn_cons_eq_ok.1 h
      have hpicked : (values.gather indices).toFloats? = some (Column.pick numbers indices) := by
        rw [Column.toFloats?_gather, hnumbers, Option.map_some]
      refine applyToColumn_cons_eq_ok.2 ⟨_, f, hpicked, hf, ?_⟩
      rw [Column.gather, Column.pick_map]

/-- Operations on a column are operations on its values. -/
theorem applyToValue_of_applyToColumn {values result : Column} {i : Nat} {value : Value}
    (h : registry.applyToColumn store eltwise values = .ok result)
    (hi : values.get? i = some value) :
    ∃ value', result.get? i = some value' ∧
      registry.applyToValue store eltwise value = .ok value' := by
  obtain ⟨value', hvalue', hone⟩ :=
    (registry.pointwise_applyToColumn store eltwise).exists_get? h hi
  refine ⟨value', hvalue', ?_⟩
  cases eltwise with
  | nil =>
    cases h
    exact congrArg Except.ok (Option.some.inj (hi.symm.trans hvalue'))
  | cons first eltwise =>
    simp only [applyToValue, hone, ok_bind]
    cases value' <;> rfl

end Registry

/-! ### Vectors -/

section Vectors

variable {store : Store} {registry : Registry} {axis : String} {indices : List Nat}

/-- A value with a name is the one at the place of its entry on the axis. -/
theorem Store.exists_get?_of_nameVector {values : Column} {entries : List String}
    {vector : NamedVector} {entry : String} (hentries : store.entries? axis = some entries)
    (h : store.nameVector axis indices values = .ok vector) (hentry : entry ∈ vector.entries) :
    ∃ i value, entries[i]? = some entry ∧ values.get? i = some value ∧
      vector.get? entry = some value := by
  obtain ⟨found, hfound, hrange, hrange', rfl⟩ := nameVector_eq_ok.1 h
  obtain rfl : found = entries := Option.some.inj (hfound.symm.trans hentries)
  obtain ⟨j, hj⟩ := exists_idxOf? hentry
  have hpicked := getElem?_of_idxOf? hj
  rw [Column.getElem?_pick hrange] at hpicked
  obtain ⟨i, hi, hentry'⟩ := Option.bind_eq_some_iff.1 hpicked
  obtain ⟨value, hvalue⟩ := Column.exists_get? (hrange' i (List.mem_of_getElem? hi))
  refine ⟨i, value, hentry', hvalue, ?_⟩
  rw [NamedVector.get?, hj, Option.bind_some, Column.get?_gather hrange', hi, Option.bind_some,
    hvalue]

theorem Registry.exists_get?_of_applyToVector {eltwise : List Invocation}
    {vector result : NamedVector} {entry : String} {value : Value}
    (h : registry.applyToVector store eltwise vector = .ok result)
    (hvalue : vector.get? entry = some value) :
    ∃ value', result.get? entry = some value' ∧
      registry.applyToValue store eltwise value = .ok value' := by
  obtain ⟨values, hvalues, rfl⟩ := applyToVector_eq_ok.1 h
  obtain ⟨j, hj, hvalue⟩ := Option.bind_eq_some_iff.1 hvalue
  obtain ⟨value', hvalue', happly⟩ := applyToValue_of_applyToColumn hvalues hvalue
  refine ⟨value', ?_, happly⟩
  rw [NamedVector.get?, hj]
  exact hvalue'

/-- If each value of a vector is looked up by an entry lookup, then operations on the vector give
the answers to the queries of the entries. -/
theorem VectorQuery.exists_get?_of_lookup {source : VectorLookup} {eltwise : List Invocation}
    {vector : NamedVector} {single : String → ScalarLookup}
    (hsource : ∀ looked, source.eval store = .ok (some looked) → ∀ entry ∈ looked.entries,
      ∃ value, looked.get? entry = some value ∧ (single entry).eval store = .ok value)
    (h : (VectorQuery.lookup source eltwise).eval store registry = .ok (some vector)) :
    ∀ entry ∈ vector.entries, ∃ value, vector.get? entry = some value ∧
      (ScalarQuery.lookup (single entry) eltwise).eval store registry = .ok (some value) := by
  intro entry hentry
  obtain ⟨looked, hlooked, happly⟩ := lookup_eq_some.1 h
  have hentries : vector.entries = looked.entries := by
    obtain ⟨values, -, rfl⟩ := Registry.applyToVector_eq_ok.1 happly
    rfl
  obtain ⟨value, hvalue, hsingle⟩ := hsource looked hlooked entry (hentries ▸ hentry)
  obtain ⟨value', hvalue', happly'⟩ := Registry.exists_get?_of_applyToVector happly hvalue
  exact ⟨value', hvalue', ScalarQuery.lookup_eq_some.2 ⟨value, hsingle, happly'⟩⟩

variable (hstore : store.WellFormed)

include hstore

/-- The values of a filtered vector are those of the entry lookups. -/
theorem VectorLookup.exists_get?_vector {filtered : FilteredAxis} {property : AxisLookup}
    {looked : NamedVector}
    (h : (VectorLookup.vector filtered property).eval store = .ok (some looked)) :
    ∀ entry ∈ looked.entries, ∃ value, looked.get? entry = some value ∧
      (ScalarLookup.vectorEntry ⟨filtered.axis, entry⟩ property).eval store = .ok value := by
  intro entry hentry
  obtain ⟨indices, values, -, hvalues, hnamed⟩ := vector_eq_some.1 h
  obtain ⟨entries, hentries, -⟩ := Store.nameVector_eq_ok.1 hnamed
  obtain ⟨i, value, hi, hvalue, hget⟩ := Store.exists_get?_of_nameVector hentries hnamed hentry
  obtain ⟨value', hvalue', hat⟩ := property.valueAt_of_values hstore hentries hvalues hi
  obtain rfl : value = value' := Option.some.inj (hvalue.symm.trans hvalue')
  exact ⟨value, hget, hat⟩

/-- The indices of a filtered axis, by the entries that the filters keep. -/
theorem FilteredAxis.indices_eq_kept {filtered : FilteredAxis} {indices? : Option (List Nat)}
    (h : filtered.indices store = .ok indices?) :
    ∃ entries, store.entries? filtered.axis = some entries ∧
      (∀ filter ∈ filtered.filters, ∃ bits, filter.bits store filtered.axis = .ok bits) ∧
        (filtered.filters ≠ [] ∧ (∀ entry ∈ entries, filtered.keeps store entry = false) ∧
            indices? = none ∨
          (filtered.filters = [] ∨ ∃ entry ∈ entries, filtered.keeps store entry = true) ∧
            indices? = some (keptIndices (entries.map (filtered.keeps store)))) := by
  obtain ⟨mask, hmask, h⟩ := indices_eq_ok.1 h
  obtain ⟨entries, hentries, -⟩ := mask_eq_ok.1 hmask
  obtain ⟨hbits, rfl⟩ := mask_eq_map hstore hentries hmask
  refine ⟨entries, hentries, hbits, h.imp ?_ ?_⟩
  · rintro ⟨hfilters, hnot, rfl⟩
    refine ⟨hfilters, fun entry hentry => ?_, rfl⟩
    exact Bool.eq_false_iff.2 fun hkept => hnot (List.mem_map.2 ⟨entry, hentry, hkept⟩)
  · rintro ⟨hkept, rfl⟩
    exact ⟨hkept.imp_right List.mem_map.1, rfl⟩

end Vectors

/-- **A filtered vector query is the queries of its entries.** Every filter tells a truth value of
every entry of the axis. The entries of the answer are those that these truth values keep, combined
from left to right, and the value of each is the answer to the query of that entry alone. There is
no answer only if there are filters and they keep no entry. -/
theorem VectorQuery.eval_eq_entries {store : Store} {registry : Registry}
    {filtered : FilteredAxis} {property : AxisLookup} {eltwise : List Invocation}
    {answer? : Option NamedVector} (hstore : store.Reachable)
    (h : (VectorQuery.lookup (.vector filtered property) eltwise).eval store registry =
      .ok answer?) :
    ∃ entries, store.entries? filtered.axis = some entries ∧
      (∀ filter ∈ filtered.filters, ∀ entry ∈ entries,
        (ScalarQuery.lookup (.vectorEntry ⟨filtered.axis, entry⟩ filter.lookup) []).eval store
          registry = .ok (some (.bool (filter.holdsAt store ⟨filtered.axis, entry⟩)))) ∧
      (answer? = none →
        filtered.filters ≠ [] ∧ ∀ entry ∈ entries, filtered.keeps store entry = false) ∧
      ∀ vector, answer? = some vector →
        vector.axis = filtered.axis ∧
          vector.entries = entries.filter (filtered.keeps store) ∧
          (filtered.filters = [] ∨ vector.entries ≠ []) ∧
          ∀ entry ∈ vector.entries, ∃ value, vector.get? entry = some value ∧
            (ScalarQuery.lookup (.vectorEntry ⟨filtered.axis, entry⟩ property) eltwise).eval store
              registry = .ok (some value) := by
  have hwell := hstore.wellFormed
  obtain ⟨indices?, hindices⟩ : ∃ indices?, filtered.indices store = .ok indices? := by
    obtain ⟨looked?, hlooked, -⟩ := bind_eq_ok.1 h
    obtain ⟨indices?, hindices, -⟩ := bind_eq_ok.1 hlooked
    exact ⟨indices?, hindices⟩
  -- the filters are evaluated whether they keep an entry or not
  obtain ⟨entries, hentries, hbits, hkept⟩ := FilteredAxis.indices_eq_kept hwell hindices
  refine ⟨entries, hentries, fun filter hfilter entry hentry => ?_, ?_, ?_⟩
  · obtain ⟨bits, hbits⟩ := hbits filter hfilter
    obtain ⟨i, hi⟩ := List.getElem?_of_mem hentry
    exact ScalarQuery.lookup_eq_some.2
      ⟨_, (AxisFilter.valueAt_of_bits hwell hentries hbits hi).1, rfl⟩
  · rintro rfl
    have hnone := VectorLookup.vector_eq_none.1 (lookup_eq_none.1 h)
    obtain ⟨hfilters, hkept, -⟩ | ⟨-, rfl⟩ := hkept
    · exact ⟨hfilters, hkept⟩
    · cases hnone.symm.trans hindices
  · rintro vector rfl
    obtain ⟨looked, hlooked, happly⟩ := lookup_eq_some.1 h
    obtain ⟨values, -, rfl⟩ := Registry.applyToVector_eq_ok.1 happly
    obtain ⟨indices, values, hindices', -, hnamed⟩ := VectorLookup.vector_eq_some.1 hlooked
    obtain ⟨found, hfound, -, -, rfl⟩ := Store.nameVector_eq_ok.1 hnamed
    obtain rfl : found = entries := Option.some.inj (hfound.symm.trans hentries)
    obtain ⟨-, -, rfl⟩ | ⟨hkept, rfl⟩ := hkept
    · cases hindices'.symm.trans hindices
    · cases hindices'.symm.trans hindices
      have hpicked := Column.pick_keptIndices found (filtered.keeps store)
      refine ⟨rfl, hpicked, hkept.imp_right ?_, exists_get?_of_lookup
        (fun looked hlooked => VectorLookup.exists_get?_vector hwell hlooked) h⟩
      rintro ⟨entry, hentry, hkeeps⟩
      exact List.ne_nil_of_mem (hpicked ▸ List.mem_filter.2 ⟨hentry, hkeeps⟩)

/-- The cells of an old batch but for the last one, which a chain of properties and the names of
the entries tell. -/
theorem VectorQuery.eval_old_batch : ∃ store filtered property vector,
    store.Reachable ∧
      VectorQuery.parse .builtin "cell & batch : age > 1 ^ name = z @ batch : age % Abs" =
        .ok (.lookup (.vector filtered property) [⟨"Abs", []⟩]) ∧
      (VectorQuery.lookup (.vector filtered property) [⟨"Abs", []⟩]).eval store .builtin =
        .ok (some vector) ∧
      vector.entries = ["x", "y", "z"].filter (filtered.keeps store) ∧
      ∃ value, vector.get? "y" = some value ∧
        (ScalarQuery.lookup (.vectorEntry ⟨"cell", "y"⟩ property) [⟨"Abs", []⟩]).eval store
          .builtin = .ok (some value) := by
  let age : AxisLookup := ⟨⟨"batch", ["age"]⟩, none, false⟩
  let old : AxisFilter := ⟨.and, { age with test := some ⟨.greater, "1"⟩ }⟩
  let last : AxisFilter := ⟨.xor, ⟨⟨"name", []⟩, some ⟨.equal, "z"⟩, false⟩⟩
  let store : Store := (Store.empty "data").run [.addAxis "cell" ["x", "y", "z"],
    .addAxis "batch" ["U", "V"], .setVector "cell" "batch" (.string ["U", "V", "V"]),
    .setVector "batch" "age" (.int [1, 5])]
  have hreachable : store.Reachable := (Store.Reachable.empty "data").run (by decide)
  have heval : ((VectorQuery.lookup (.vector ⟨"cell", [old, last]⟩ age) [⟨"Abs", []⟩]).eval store
      .builtin).toOption = some (some ⟨"cell", ["y"], .float [.ofNat 5]⟩) := by
    decide +kernel
  have hparse : (VectorQuery.parse .builtin
      "cell & batch : age > 1 ^ name = z @ batch : age % Abs").toOption =
        some (.lookup (.vector ⟨"cell", [old, last]⟩ age) [⟨"Abs", []⟩]) := by
    decide +kernel
  rw [toOption_eq_some] at heval hparse
  obtain ⟨entries, hentries, -, -, hvector⟩ := eval_eq_entries hreachable heval
  obtain ⟨-, hkept, -, hvalues⟩ := hvector _ rfl
  have hall : store.entries? "cell" = some ["x", "y", "z"] := rfl
  obtain rfl : entries = ["x", "y", "z"] := Option.some.inj (hentries.symm.trans hall)
  exact ⟨store, _, _, _, hreachable, hparse, heval, hkept, hvalues "y" List.mem_cons_self⟩

end Axial
