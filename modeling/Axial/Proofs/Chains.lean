import Axial.Proofs.MatrixCells
import Axial.Proofs.StoreHistory

/-!
# Chains of properties

A chain of properties is looked up one property after another. The value of a property names an
entry of another axis, and the rest of the chain is a property of that entry. A vector is followed a
whole column at a time, and each value of the column goes its own way.

* `Store.LeadsTo` : the axis that the values of a property name entries of.
* `AxisLookup.valueAt_chain_eq_ok` : a chain for one entry is its first property, and then the rest
  of the chain for the entry that this names.
* `Assembles` : a computation on columns that succeeds where it does for each of the values.
* `Store.assembles_follow`, `AxisLookup.assembles_finish` : the steps of the evaluation.
* `VectorQuery.exists_eval_of_entries` : a vector query is answered if the query of each entry is.
* `PropertyChain.eval_eq_hops` : chains in the queries of single entries and of whole axes.
-/

namespace Axial

variable {store : Store}

/-! ### Where a property leads -/

/-- The values of a property name entries of an axis: the axis called like the property, or, if
there is none, the axis called like the part of its name before the first dot. -/
def Store.LeadsTo (store : Store) (property axis : String) : Prop :=
  store.hasAxis axis = true ∧
    (axis = property ∨
      store.hasAxis property = false ∧ '.' ∉ axis.toList ∧
        ∃ tail, property.toList = axis.toList ++ '.' :: tail)

theorem Store.stem?_eq_some {name stem : String} :
    stem? name = some stem ↔
      '.' ∉ stem.toList ∧ ∃ tail, name.toList = stem.toList ++ '.' :: tail := by
  unfold stem?
  constructor
  · intro h
    split at h
    · next hdot =>
      cases h
      obtain ⟨before, after, heq, hbefore⟩ := List.eq_append_cons_of_mem hdot
      have hstem : name.toList.takeWhile (· ≠ '.') = before := by
        rw [heq, List.takeWhile_append_of_pos (by grind)]
        simp
      rw [String.toList_ofList, hstem]
      exact ⟨hbefore, after, heq⟩
    · cases h
  · rintro ⟨hstem, tail, heq⟩
    rw [if_pos (by simp [heq]), heq, List.takeWhile_append_of_pos (by grind)]
    simp

theorem Store.linkedAxis?_eq_some {property axis : String} :
    store.linkedAxis? property = some axis ↔ store.LeadsTo property axis := by
  unfold linkedAxis? LeadsTo
  cases hproperty : store.hasAxis property with
  | true =>
    simp only [if_true, Option.some.injEq, Bool.true_eq_false, false_and, or_false]
    constructor
    · rintro rfl
      exact ⟨hproperty, rfl⟩
    · rintro ⟨-, rfl⟩
      rfl
  | false =>
    simp only [Bool.false_eq_true, if_false, Option.filter_eq_some_iff, stem?_eq_some, true_and]
    constructor
    · rintro ⟨hstem, haxis⟩
      exact ⟨haxis, .inr hstem⟩
    · rintro ⟨haxis, rfl | hstem⟩
      · cases haxis.symm.trans hproperty
      · exact ⟨hstem, haxis⟩

/-! ### One entry -/

/-- A test gives the same for any property and any axis; these only word its errors. -/
theorem PropertyTest.toOption_outcomes (test : PropertyTest) (values : Column)
    (axis axis' : String) (property property' : PropertyChain) :
    (test.outcomes store axis property values).toOption =
      (test.outcomes store axis' property' values).toOption := by
  unfold outcomes
  split
  · cases values with
    | string texts =>
      refine toOption_bind_congr ?_ fun _ => rfl
      rw [Store.toOption_require, Store.toOption_require]
    | _ => rfl
  · refine toOption_bind_congr ?_ fun _ => rfl
    rw [Store.toOption_require, Store.toOption_require]

namespace AxisLookup

theorem toOption_finish (test : Option PropertyTest) (inverted : Bool) (values : Column)
    (axis axis' : String) (property property' : PropertyChain) :
    ((AxisLookup.mk property test inverted).finish store axis values).toOption =
      ((AxisLookup.mk property' test inverted).finish store axis' values).toOption := by
  unfold finish
  cases inverted with
  | true => cases values <;> rfl
  | false =>
    cases test with
    | none => rfl
    | some test => exact toOption_bind_congr (test.toOption_outcomes ..) fun _ => rfl

/-- The value of a single property of an entry. -/
theorem valueAt_single_eq_ok {property : String} {entry : AxisEntry} {value : Value} :
    (AxisLookup.mk ⟨property, []⟩ none false).valueAt store entry = .ok value ↔
      ∃ index all, store.entryIndex entry = .ok index ∧
        store.property entry.axis property = .ok all ∧ all.get? index = some value := by
  rw [valueAt_eq_ok]
  constructor
  · rintro ⟨index, all, last, hindex, hall, hrange, hlast, hvalue⟩
    obtain ⟨found, hfound⟩ := Column.exists_get? hrange
    cases hlast
    rw [Column.gather_singleton hfound, Column.get?_ofValue] at hvalue
    cases hvalue
    exact ⟨index, all, hindex, hall, hfound⟩
  · rintro ⟨index, all, hindex, hall, hvalue⟩
    refine ⟨index, all, _, hindex, hall, Column.lt_of_get? hvalue, rfl, ?_⟩
    rw [Column.gather_singleton hvalue, Column.get?_ofValue]

/-- The value of a property of an entry goes through the value of the first property of its chain
alone. -/
theorem valueAt_eq_ok_of_first {lookup : AxisLookup} {entry : AxisEntry} {value : Value} :
    lookup.valueAt store entry = .ok value ↔
      ∃ first last,
        (AxisLookup.mk ⟨lookup.property.first, []⟩ none false).valueAt store entry = .ok first ∧
          lookup.valuesFrom store entry.axis (.ofValue first) = .ok last ∧
            last.get? 0 = some value := by
  rw [valueAt_eq_ok]
  simp only [valueAt_single_eq_ok]
  constructor
  · rintro ⟨index, all, last, hindex, hall, hrange, hlast, hvalue⟩
    obtain ⟨first, hfirst⟩ := Column.exists_get? hrange
    rw [Column.gather_singleton hfirst] at hlast
    exact ⟨first, last, ⟨index, all, hindex, hall, hfirst⟩, hlast, hvalue⟩
  · rintro ⟨first, last, ⟨index, all, hindex, hall, hfirst⟩, hlast, hvalue⟩
    rw [← Column.gather_singleton hfirst] at hlast
    exact ⟨index, all, last, hindex, hall, Column.lt_of_get? hfirst, hlast, hvalue⟩

end AxisLookup

/-- One value is followed to the entry that it names. -/
theorem Store.follow_ofValue_eq_ok {axis property next : String} {rest : List String}
    {value : Value} {last : Column} :
    store.follow axis property (.ofValue value) (next :: rest) = .ok last ↔
      ∃ name target start, value = .string name ∧ store.LeadsTo property target ∧
        (AxisLookup.mk ⟨next, []⟩ none false).valueAt store ⟨target, name⟩ = .ok start ∧
          store.follow target next (.ofValue start) rest = .ok last := by
  rw [follow_cons_eq_ok]
  constructor
  · rintro ⟨_, target, entries, found, all, hvalue, htarget, hentries, hfound, hall, hrange, h⟩
    obtain ⟨name, rfl, rfl⟩ := Column.ofValue_eq_string.1 hvalue
    obtain _ | ⟨hindex, _ | _⟩ := hfound
    obtain ⟨start, hstart⟩ := Column.exists_get? (hrange _ List.mem_cons_self)
    rw [Column.gather_singleton hstart] at h
    refine ⟨name, target, start, rfl, linkedAxis?_eq_some.1 htarget, ?_, h⟩
    exact AxisLookup.valueAt_single_eq_ok.2
      ⟨_, all, entryIndex_eq_ok.2 ⟨entries, hentries, hindex⟩, hall, hstart⟩
  · rintro ⟨name, target, start, rfl, htarget, hstart, h⟩
    obtain ⟨index, all, hindex, hall, hstart⟩ := AxisLookup.valueAt_single_eq_ok.1 hstart
    obtain ⟨entries, hentries, hindex⟩ := entryIndex_eq_ok.1 hindex
    rw [← Column.gather_singleton hstart] at h
    exact ⟨[name], target, entries, [index], all, rfl, linkedAxis?_eq_some.2 htarget, hentries,
      .cons hindex .nil, hall, by simpa using Column.lt_of_get? hstart, h⟩

/-- A chain of properties of an entry is the rest of the chain for the entry that its first
property names. -/
theorem AxisLookup.valueAt_chain_eq_ok {first next : String} {rest : List String}
    {test : Option PropertyTest} {inverted : Bool} {entry : AxisEntry} {value : Value} :
    (AxisLookup.mk ⟨first, next :: rest⟩ test inverted).valueAt store entry = .ok value ↔
      ∃ name target,
        (AxisLookup.mk ⟨first, []⟩ none false).valueAt store entry = .ok (.string name) ∧
          store.LeadsTo first target ∧
            (AxisLookup.mk ⟨next, rest⟩ test inverted).valueAt store ⟨target, name⟩ =
              .ok value := by
  have hfinish : ∀ target values last,
      (AxisLookup.mk ⟨first, next :: rest⟩ test inverted).finish store entry.axis values =
          .ok last ↔
        (AxisLookup.mk ⟨next, rest⟩ test inverted).finish store target values = .ok last := by
    intro target values last
    rw [← toOption_eq_some, ← toOption_eq_some, toOption_finish]
  rw [valueAt_eq_ok_of_first]
  simp only [valuesFrom, bind_eq_ok, Store.follow_ofValue_eq_ok]
  constructor
  · rintro ⟨_, last, hfirst,
      ⟨followed, ⟨name, target, start, rfl, htarget, hstart, hfollowed⟩, hlast⟩, hvalue⟩
    have hrest := bind_eq_ok.2 ⟨followed, hfollowed, (hfinish target ..).1 hlast⟩
    exact ⟨name, target, hfirst, htarget,
      valueAt_eq_ok_of_first.2 ⟨start, last, hstart, hrest, hvalue⟩⟩
  · rintro ⟨name, target, hfirst, htarget, h⟩
    obtain ⟨start, last, hstart, h, hvalue⟩ := valueAt_eq_ok_of_first.1 h
    obtain ⟨followed, hfollowed, hlast⟩ := bind_eq_ok.1 h
    exact ⟨_, last, hfirst, ⟨followed, ⟨name, target, start, rfl, htarget, hstart, hfollowed⟩,
      (hfinish target ..).2 hlast⟩, hvalue⟩

/-! ### Whole columns -/

/-- A computation on columns succeeds on a column with values if it does on each of them alone. -/
def Assembles (f : Column → Except EvalError Column) : Prop :=
  ∀ values, 0 < values.length →
    (∀ i value, values.get? i = some value → ∃ result, f (.ofValue value) = .ok result) →
      ∃ result, f values = .ok result

section Assembles

variable {f g : Column → Except EvalError Column}

/-- Whether a computation succeeds is told by the type of the values. -/
theorem Assembles.of_type (h : ∀ {values result other}, f values = .ok result →
    other.type = values.type → ∃ result, f other = .ok result) : Assembles f := by
  intro values hlength hvalues
  obtain ⟨value, hvalue⟩ := Column.exists_get? hlength
  obtain ⟨result, hresult⟩ := hvalues 0 value hvalue
  exact h hresult (by rw [← Column.gather_singleton hvalue, Column.type_gather])

theorem Assembles.bind (hf : Assembles f) (hpointwise : Pointwise f) (hg : Assembles g) :
    Assembles fun values => f values >>= g := by
  intro values hlength hvalues
  obtain ⟨between, hbetween⟩ : ∃ between, f values = .ok between := by
    refine hf values hlength fun i value hvalue => ?_
    obtain ⟨result, hresult⟩ := hvalues i value hvalue
    obtain ⟨between, hbetween, -⟩ := bind_eq_ok.1 hresult
    exact ⟨between, hbetween⟩
  have hlength' : between.length = values.length := hpointwise.length_eq hbetween
  obtain ⟨result, hresult⟩ := hg between (hlength' ▸ hlength) fun i value hvalue => by
    -- a value between the steps comes from the value at its place
    obtain ⟨start, hstart⟩ := Column.exists_get? (hlength' ▸ Column.lt_of_get? hvalue)
    obtain ⟨value', hvalue', hone⟩ := hpointwise.exists_get? hbetween hstart
    cases hvalue.symm.trans hvalue'
    obtain ⟨result, hresult⟩ := hvalues i start hstart
    obtain ⟨_, hone', hresult⟩ := bind_eq_ok.1 hresult
    cases hone.symm.trans hone'
    exact ⟨result, hresult⟩
  exact ⟨result, bind_eq_ok.2 ⟨between, hbetween, hresult⟩⟩

end Assembles

/-- A column is followed if each of its values is followed alone. -/
theorem Store.assembles_follow (axis property : String) (rest : List String) :
    Assembles fun values => store.follow axis property values rest := by
  induction rest generalizing axis property with
  | nil => exact fun values _ _ => ⟨values, rfl⟩
  | cons next rest ih =>
    intro values hlength hvalues
    -- the first value tells the axis, and with it the properties that all values are followed to
    obtain ⟨value, hvalue⟩ := Column.exists_get? hlength
    obtain ⟨last, hlast⟩ := hvalues 0 value hvalue
    obtain ⟨name, target, start, rfl, htarget, hstart, -⟩ := follow_ofValue_eq_ok.1 hlast
    obtain ⟨index, all, hindex, hall, -⟩ := AxisLookup.valueAt_single_eq_ok.1 hstart
    obtain ⟨entries, hentries, -⟩ := entryIndex_eq_ok.1 hindex
    obtain ⟨names, rfl⟩ : ∃ names, values = .string names := by
      cases values with
      | string names => exact ⟨names, rfl⟩
      | _ => simp [Column.get?] at hvalue
    have hplace : ∀ name ∈ names, ∃ i start last, entries.idxOf? name = some i ∧
        all.get? i = some start ∧ store.follow target next (.ofValue start) rest = .ok last := by
      intro name hname
      obtain ⟨j, hj⟩ := List.getElem?_of_mem hname
      obtain ⟨last, hlast⟩ := hvalues j (.string name) (congrArg (Option.map Value.string) hj)
      obtain ⟨_, target', start, hname', htarget', hstart, hlast⟩ := follow_ofValue_eq_ok.1 hlast
      obtain ⟨i, all', hi, hall', hstart⟩ := AxisLookup.valueAt_single_eq_ok.1 hstart
      obtain ⟨entries', hentries', hi⟩ := entryIndex_eq_ok.1 hi
      cases hname'
      cases (linkedAxis?_eq_some.2 htarget).symm.trans (linkedAxis?_eq_some.2 htarget')
      cases hentries.symm.trans hentries'
      cases hall.symm.trans hall'
      exact ⟨i, start, last, hi, hstart, hlast⟩
    choose! place start last hidx hstart hlast using hplace
    have hrange : ∀ i ∈ names.map place, i < all.length := by
      intro i hi
      obtain ⟨name, hname, rfl⟩ := List.mem_map.1 hi
      exact Column.lt_of_get? (hstart name hname)
    have hfound : List.Forall₂ (fun name i => entries.idxOf? name = some i) names
        (names.map place) :=
      List.forall₂_map_right_iff.2 (List.forall₂_same.2 hidx)
    obtain ⟨end', hend⟩ := ih target next (all.gather (names.map place))
      (by rwa [Column.length_gather hrange, List.length_map]) fun j value hvalue => by
        rw [Column.get?_gather hrange] at hvalue
        obtain ⟨i, hi, hvalue⟩ := Option.bind_eq_some_iff.1 hvalue
        obtain ⟨name, hname, rfl⟩ := List.mem_map.1 (List.mem_of_getElem? hi)
        cases hvalue.symm.trans (hstart name hname)
        exact ⟨_, hlast name hname⟩
    exact ⟨end', follow_cons_eq_ok.2 ⟨names, target, entries, _, all, rfl,
      linkedAxis?_eq_some.2 htarget, hentries, hfound, hall, hrange, hend⟩⟩

/-- A literal is read as a value of the type. -/
theorem Column.isSome_compareTo?_of_type {values other : Column} {literal : String}
    (htype : other.type = values.type) :
    (other.compareTo? literal).isSome = (values.compareTo? literal).isSome := by
  cases values <;> cases other <;> cases htype <;> simp [compareTo?]

theorem PropertyTest.exists_outcomes_of_type {test : PropertyTest} {axis : String}
    {property : PropertyChain} {values other : Column} {outcomes : List Bool}
    (h : test.outcomes store axis property values = .ok outcomes)
    (htype : other.type = values.type) :
    ∃ outcomes', test.outcomes store axis property other = .ok outcomes' := by
  unfold PropertyTest.outcomes at h ⊢
  split at h
  · next hpattern =>
    rw [if_pos hpattern]
    cases values with
    | string texts =>
      cases other with
      | string texts' =>
        obtain ⟨regex, hregex, -⟩ := bind_eq_ok.1 h
        exact ⟨_, bind_eq_ok.2 ⟨regex, hregex, rfl⟩⟩
      | _ => cases htype
    | _ => cases h
  · next hpattern =>
    rw [if_neg hpattern]
    obtain ⟨orderings, horderings, -⟩ := bind_eq_ok.1 h
    rw [Store.require_eq_ok] at horderings
    obtain ⟨orderings', horderings'⟩ : ∃ orderings', other.compareTo? test.literal =
        some orderings' := by
      rw [← Option.isSome_iff_exists, Column.isSome_compareTo?_of_type htype, horderings]
      rfl
    exact ⟨_, bind_eq_ok.2 ⟨orderings', Store.require_eq_ok.2 horderings', rfl⟩⟩

namespace AxisLookup

variable (lookup : AxisLookup)

/-- Whether values can be inverted or tested is told by their type. -/
theorem exists_finish_of_type {axis : String} {values result other : Column}
    (h : lookup.finish store axis values = .ok result) (htype : other.type = values.type) :
    ∃ result', lookup.finish store axis other = .ok result' := by
  unfold finish at h ⊢
  split at h
  · next hinverted =>
    rw [if_pos hinverted]
    cases values with
    | bool bs =>
      cases other with
      | bool bs' => exact ⟨_, rfl⟩
      | _ => cases htype
    | _ => cases h
  · next hinverted =>
    rw [if_neg hinverted]
    cases htest : lookup.test with
    | none => exact ⟨other, rfl⟩
    | some test =>
      rw [htest] at h
      obtain ⟨outcomes, houtcomes, -⟩ := bind_eq_ok.1 h
      obtain ⟨outcomes', houtcomes'⟩ := PropertyTest.exists_outcomes_of_type houtcomes htype
      exact ⟨_, bind_eq_ok.2 ⟨outcomes', houtcomes', rfl⟩⟩

theorem assembles_finish (axis : String) : Assembles (lookup.finish store axis) :=
  .of_type lookup.exists_finish_of_type

variable (hstore : store.WellFormed)

include hstore

theorem assembles_valuesFrom (axis : String) : Assembles (lookup.valuesFrom store axis) :=
  (Store.assembles_follow axis lookup.property.first lookup.property.rest).bind
    (Store.pointwise_follow hstore axis lookup.property.first lookup.property.rest)
    (lookup.assembles_finish axis)

variable {lookup}

/-- The values for all entries of an axis can be looked up if that for each entry can. -/
theorem exists_values {axis : String} {entries : List String}
    (hentries : store.entries? axis = some entries) (hne : entries ≠ [])
    (h : ∀ entry ∈ entries, ∃ value, lookup.valueAt store ⟨axis, entry⟩ = .ok value) :
    ∃ values, lookup.values store axis = .ok values := by
  have hnodup := hstore.nodup axis entries hentries
  obtain ⟨entry, hentry⟩ := List.exists_mem_of_ne_nil entries hne
  obtain ⟨value, hvalue⟩ := h entry hentry
  obtain ⟨first, _, hfirst, -⟩ := valueAt_eq_ok_of_first.1 hvalue
  obtain ⟨_, all, -, hall, -⟩ := valueAt_single_eq_ok.1 hfirst
  have hlength := Store.length_eq_of_property hstore hentries hall
  obtain ⟨values, hvalues⟩ := lookup.assembles_valuesFrom hstore axis all
    (hlength ▸ List.length_pos_of_ne_nil hne) fun i value hvalue => by
      have hi : i < entries.length := hlength ▸ Column.lt_of_get? hvalue
      have hentry := List.getElem?_eq_getElem hi
      -- the value at a place is the property of the entry at the place
      obtain ⟨_, hat⟩ := h _ (List.getElem_mem hi)
      obtain ⟨first, last, hfirst, hlast, -⟩ := valueAt_eq_ok_of_first.1 hat
      obtain ⟨index, all', hindex, hall', hfirst⟩ := valueAt_single_eq_ok.1 hfirst
      obtain ⟨entries', hentries', hindex⟩ := Store.entryIndex_eq_ok.1 hindex
      cases hentries.symm.trans hentries'
      cases hall.symm.trans hall'
      cases hindex.symm.trans (idxOf?_of_getElem? hnodup hentry)
      cases hvalue.symm.trans hfirst
      exact ⟨last, hlast⟩
  exact ⟨values, bind_eq_ok.2 ⟨all, hall, hvalues⟩⟩

/-- What stands at a place of the values of an axis is the value of the entry there. -/
theorem exists_valueAt_of_get? {axis : String} {entries : List String} {values : Column} {i : Nat}
    {value : Value} (hentries : store.entries? axis = some entries)
    (hvalues : lookup.values store axis = .ok values) (hvalue : values.get? i = some value) :
    ∃ entry, entries[i]? = some entry ∧ lookup.valueAt store ⟨axis, entry⟩ = .ok value := by
  have hi : i < entries.length :=
    lookup.length_eq_of_values hstore hentries hvalues ▸ Column.lt_of_get? hvalue
  have hentry := List.getElem?_eq_getElem hi
  obtain ⟨_, hvalue', hat⟩ := lookup.valueAt_of_values hstore hentries hvalues hentry
  cases hvalue.symm.trans hvalue'
  exact ⟨_, hentry, hat⟩

end AxisLookup

/-! ### Queries -/

section Queries

variable {registry : Registry} {eltwise : List Invocation}

/-- A property that is looked up without filters has the values of its whole axis. -/
theorem VectorLookup.eval_unfiltered {axis : String} {lookup : AxisLookup} {entries : List String}
    {values : Column} (hstore : store.WellFormed) (hentries : store.entries? axis = some entries)
    (hvalues : lookup.values store axis = .ok values) :
    (VectorLookup.vector ⟨axis, []⟩ lookup).eval store = .ok (some ⟨axis, entries, values⟩) := by
  have hlength := lookup.length_eq_of_values hstore hentries hvalues
  refine vector_eq_some.2
    ⟨_, values, FilteredAxis.indices_unfiltered hentries, hvalues, ?_⟩
  refine Store.nameVector_eq_ok.2 ⟨entries, hentries, fun _ => List.mem_range.1,
    fun _ hi => hlength ▸ List.mem_range.1 hi, ?_⟩
  rw [Column.pick_range, hlength, Column.gather_range]

theorem Registry.assembles_applyToColumn (registry : Registry) (store : Store)
    (eltwise : List Invocation) : Assembles (registry.applyToColumn store eltwise) :=
  .of_type exists_applyToColumn_of_type

theorem Registry.exists_applyToColumn_of_applyToValue {value result : Value}
    (h : registry.applyToValue store eltwise value = .ok result) :
    ∃ results, registry.applyToColumn store eltwise (.ofValue value) = .ok results := by
  cases eltwise with
  | nil => exact ⟨_, rfl⟩
  | cons first eltwise =>
    obtain ⟨results, hresults, -⟩ := bind_eq_ok.1 h
    exact ⟨results, hresults⟩

/-- A vector query without filters is answered if the query of each entry is, and with the answers
to these. -/
theorem VectorQuery.exists_eval_of_entries {axis : String} {lookup : AxisLookup}
    {entries : List String} (hstore : store.WellFormed)
    (hentries : store.entries? axis = some entries) (hne : entries ≠ [])
    (h : ∀ entry ∈ entries, ∃ value,
      (ScalarQuery.lookup (.vectorEntry ⟨axis, entry⟩ lookup) eltwise).eval store registry =
        .ok (some value)) :
    ∃ vector, (VectorQuery.lookup (.vector ⟨axis, []⟩ lookup) eltwise).eval store registry =
        .ok (some vector) ∧
      vector.axis = axis ∧ vector.entries = entries ∧
        List.Forall₂ (fun entry value =>
          (ScalarQuery.lookup (.vectorEntry ⟨axis, entry⟩ lookup) eltwise).eval store registry =
            .ok (some value)) entries vector.values.cells := by
  obtain ⟨values, hvalues⟩ := AxisLookup.exists_values hstore hentries hne fun entry hentry => by
    obtain ⟨_, hvalue⟩ := h entry hentry
    obtain ⟨looked, hlooked, -⟩ := ScalarQuery.lookup_eq_some.1 hvalue
    exact ⟨looked, hlooked⟩
  have hlength := lookup.length_eq_of_values hstore hentries hvalues
  have hlooked := VectorLookup.eval_unfiltered hstore hentries hvalues
  obtain ⟨results, hresults⟩ := registry.assembles_applyToColumn store eltwise values
    (hlength ▸ List.length_pos_of_ne_nil hne) fun i value hvalue => by
      obtain ⟨entry, hi, hat⟩ := AxisLookup.exists_valueAt_of_get? hstore hentries hvalues hvalue
      obtain ⟨_, hanswer⟩ := h entry (List.mem_of_getElem? hi)
      obtain ⟨_, hat', happly⟩ := ScalarQuery.lookup_eq_some.1 hanswer
      cases hat.symm.trans hat'
      exact Registry.exists_applyToColumn_of_applyToValue happly
  have hlength' := (registry.pointwise_applyToColumn store eltwise).length_eq hresults
  refine ⟨_, lookup_eq_some.2 ⟨_, hlooked, Registry.applyToVector_eq_ok.2 ⟨results, hresults, rfl⟩⟩,
    rfl, rfl, List.forall₂_iff_get.2 ⟨?_, fun i hi hi' => ?_⟩⟩
  · rw [Column.length_cells, hlength', hlength]
  · obtain ⟨value, hvalue, hat⟩ :=
      lookup.valueAt_of_values hstore hentries hvalues (List.getElem?_eq_getElem hi)
    obtain ⟨result, hresult, happly⟩ := Registry.applyToValue_of_applyToColumn hresults hvalue
    rw [← Column.cells_getElem?] at hresult
    obtain ⟨_, rfl⟩ := List.getElem?_eq_some_iff.1 hresult
    exact ScalarQuery.lookup_eq_some.2 ⟨value, hat, happly⟩

end Queries

/-- **A chained lookup is the composition of its hops.** The query of a chain of two or more
properties for one entry has a value if and only if its first property is the name of some entry,
along the axis that this property leads to, and the query of the rest of the chain for that entry
has the same value; inversion, comparison and operations come with the rest. Along an axis with
entries, and without filters, the vector query of the chain has an answer if the query of each entry
has one, and its values are these answers, in the order of the axis. -/
theorem PropertyChain.eval_eq_hops {store : Store} {registry : Registry} {axis first next : String}
    {rest : List String} {test : Option PropertyTest} {inverted : Bool} {eltwise : List Invocation}
    (hstore : store.Reachable) :
    (∀ entry value,
      (ScalarQuery.lookup (.vectorEntry ⟨axis, entry⟩ ⟨⟨first, next :: rest⟩, test, inverted⟩)
          eltwise).eval store registry = .ok (some value) ↔
        ∃ name target,
          (ScalarQuery.lookup (.vectorEntry ⟨axis, entry⟩ ⟨⟨first, []⟩, none, false⟩) []).eval store
            registry = .ok (some (.string name)) ∧
          store.LeadsTo first target ∧
          (ScalarQuery.lookup (.vectorEntry ⟨target, name⟩ ⟨⟨next, rest⟩, test, inverted⟩)
            eltwise).eval store registry = .ok (some value)) ∧
    ∀ entries, store.entries? axis = some entries → entries ≠ [] →
      (∀ entry ∈ entries, ∃ value,
        (ScalarQuery.lookup (.vectorEntry ⟨axis, entry⟩ ⟨⟨first, next :: rest⟩, test, inverted⟩)
          eltwise).eval store registry = .ok (some value)) →
      ∃ vector,
        (VectorQuery.lookup (.vector ⟨axis, []⟩ ⟨⟨first, next :: rest⟩, test, inverted⟩)
          eltwise).eval store registry = .ok (some vector) ∧
        vector.axis = axis ∧ vector.entries = entries ∧
        List.Forall₂ (fun entry value =>
          (ScalarQuery.lookup (.vectorEntry ⟨axis, entry⟩ ⟨⟨first, next :: rest⟩, test, inverted⟩)
            eltwise).eval store registry = .ok (some value)) entries vector.values.cells := by
  refine ⟨fun entry value => ⟨fun h => ?_, ?_⟩, fun entries hentries hne h =>
    VectorQuery.exists_eval_of_entries hstore.wellFormed hentries hne h⟩
  · obtain ⟨looked, hlooked, happly⟩ := ScalarQuery.lookup_eq_some.1 h
    obtain ⟨name, target, hfirst, htarget, hrest⟩ := AxisLookup.valueAt_chain_eq_ok.1 hlooked
    exact ⟨name, target, ScalarQuery.lookup_eq_some.2 ⟨_, hfirst, rfl⟩, htarget,
      ScalarQuery.lookup_eq_some.2 ⟨looked, hrest, happly⟩⟩
  · rintro ⟨name, target, hfirst, htarget, hrest⟩
    obtain ⟨_, hfirst, happly⟩ := ScalarQuery.lookup_eq_some.1 hfirst
    cases happly
    obtain ⟨looked, hlooked, happly⟩ := ScalarQuery.lookup_eq_some.1 hrest
    exact ScalarQuery.lookup_eq_some.2
      ⟨looked, AxisLookup.valueAt_chain_eq_ok.2 ⟨name, target, hfirst, htarget, hlooked⟩, happly⟩

/-- Whether the donors of cells are old. A cell belongs to a batch through a vector with a longer
name than the axis of batches. -/
theorem PropertyChain.eval_eq_hops_old_donors : ∃ store old answer, store.Reachable ∧
    Query.parse .builtin "cell = x @ batch.raw : donor : age >= 65" =
      .ok (.scalar (.lookup (.vectorEntry ⟨"cell", "x"⟩
        ⟨⟨"batch.raw", ["donor", "age"]⟩, some old, false⟩) [])) ∧
    Query.parse .builtin "cell @ batch.raw : donor : age >= 65" =
      .ok (.vector (.lookup (.vector ⟨"cell", []⟩
        ⟨⟨"batch.raw", ["donor", "age"]⟩, some old, false⟩) [])) ∧
    (∃ name target, store.LeadsTo "batch.raw" target ∧
      (ScalarQuery.lookup (.vectorEntry ⟨target, name⟩ ⟨⟨"donor", ["age"]⟩, some old, false⟩)
        []).eval store .builtin = .ok (some (.bool true))) ∧
    (VectorQuery.lookup (.vector ⟨"cell", []⟩ ⟨⟨"batch.raw", ["donor", "age"]⟩, some old, false⟩)
      []).eval store .builtin = .ok (some answer) ∧
    answer.entries = ["x", "y", "z"] ∧
    List.Forall₂ (fun entry value =>
      (ScalarQuery.lookup (.vectorEntry ⟨"cell", entry⟩
        ⟨⟨"batch.raw", ["donor", "age"]⟩, some old, false⟩) []).eval store .builtin =
          .ok (some value)) answer.entries answer.values.cells := by
  let old : PropertyTest := ⟨.greaterEqual, "65"⟩
  let chain : AxisLookup := ⟨⟨"batch.raw", ["donor", "age"]⟩, some old, false⟩
  let store : Store := (Store.empty "data").run [.addAxis "cell" ["x", "y", "z"],
    .addAxis "batch" ["U", "V"], .addAxis "donor" ["D", "E"],
    .setVector "cell" "batch.raw" (.string ["U", "V", "V"]),
    .setVector "batch" "donor" (.string ["D", "E"]), .setVector "donor" "age" (.int [70, 60])]
  have hreachable : store.Reachable := (Store.Reachable.empty "data").run (by decide)
  have hparse : (Query.parse .builtin "cell = x @ batch.raw : donor : age >= 65").toOption =
      some (.scalar (.lookup (.vectorEntry ⟨"cell", "x"⟩ chain) [])) := by
    decide +kernel
  have hparse' : (Query.parse .builtin "cell @ batch.raw : donor : age >= 65").toOption =
      some (.vector (.lookup (.vector ⟨"cell", []⟩ chain) [])) := by
    decide +kernel
  have hvalues : ∀ entry ∈ ["x", "y", "z"],
      ((ScalarQuery.lookup (.vectorEntry ⟨"cell", entry⟩ chain) []).eval store .builtin).toOption =
        some (some (.bool (decide (entry = "x")))) := by
    decide +kernel
  simp only [toOption_eq_some] at hparse hparse' hvalues
  obtain ⟨hhop, hvector⟩ := @eval_eq_hops store .builtin "cell" "batch.raw" "donor" ["age"]
    (some old) false [] hreachable
  obtain ⟨name, target, -, htarget, hrest⟩ := (hhop "x" _).1 (hvalues "x" (by decide))
  obtain ⟨answer, hanswer, -, hentries, hforall⟩ :=
    hvector ["x", "y", "z"] rfl (by decide) fun entry hentry => ⟨_, hvalues entry hentry⟩
  exact ⟨store, old, answer, hreachable, hparse, hparse', ⟨name, target, htarget, hrest⟩, hanswer,
    hentries, hentries ▸ hforall⟩

end Axial
