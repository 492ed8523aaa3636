import Mathlib.Data.List.SplitBy
import Mathlib.Data.List.Forall2
import Axial.Query.Canonical

/-!
# Runs of filters

The canonical form sorts each run of filters that share a combinator. The order is total, so two
rows of filters are sorted alike exactly if their runs hold the same filters.

* `filterRuns` : the maximal runs of filters that share a combinator.
* `SameRuns` : the runs of two rows of filters hold the same filters, each in any order.
* `sortRuns_eq_sortRuns_iff`, `sortRuns_sortRuns`.
-/

namespace Axial

/-! ### The order of lookups -/

theorem PropertyTest.compare?_eq (a b : Option PropertyTest) :
    PropertyTest.compare? a b =
      (compare (a.map fun test => test.comparison.rank)
        (b.map fun test => test.comparison.rank)).then
          (compare (a.map fun test => test.literal) (b.map fun test => test.literal)) := by
  cases a <;> cases b <;> rfl

/-- The place of a comparison tells the comparison. -/
theorem Comparison.rank_inj {a b : Comparison} (h : a.rank = b.rank) : a = b := by
  cases a <;> cases b <;> first | rfl | cases h

namespace AxisLookup

/-- Lookups are compared by one key after another. -/
theorem compare_eq_compareLex :
    AxisLookup.compare = compareLex (compareOn fun lookup => lookup.property.names)
      (compareLex
        (compareLex (compareOn fun lookup => lookup.test.map fun test => test.comparison.rank)
          (compareOn fun lookup => lookup.test.map fun test => test.literal))
        (compareOn fun lookup => lookup.inverted)) := by
  funext a b
  rw [AxisLookup.compare, PropertyTest.compare?_eq]
  rfl

instance : Std.TransCmp AxisLookup.compare := by
  rw [compare_eq_compareLex]
  infer_instance

theorem eq_of_compare_eq {a b : AxisLookup} (h : AxisLookup.compare a b = .eq) : a = b := by
  simp only [compare_eq_compareLex, compareLex_eq_eq, compareOn, Std.compare_eq_iff_eq] at h
  obtain ⟨hnames, ⟨hrank, hliteral⟩, hinverted⟩ := h
  obtain ⟨⟨first, rest⟩, test, inverted⟩ := a
  obtain ⟨⟨first', rest'⟩, test', inverted'⟩ := b
  cases hnames
  cases hinverted
  cases test with
  | none =>
    cases test' with
    | none => rfl
    | some t => cases hrank
  | some t =>
    cases test' with
    | none => cases hrank
    | some t' =>
      obtain ⟨comparison, literal⟩ := t
      obtain ⟨comparison', literal'⟩ := t'
      cases hliteral
      cases Comparison.rank_inj (Option.some.inj hrank)
      rfl

end AxisLookup

namespace AxisFilter

theorem le_iff {a b : AxisFilter} :
    a.le b = true ↔ (AxisLookup.compare a.lookup b.lookup).isLE = true := by
  unfold le
  cases AxisLookup.compare a.lookup b.lookup <;> decide

theorem le_trans (a b c : AxisFilter) (hab : a.le b = true) (hbc : b.le c = true) :
    a.le c = true := by
  rw [le_iff] at *
  exact Std.TransCmp.isLE_trans hab hbc

theorem le_total (a b : AxisFilter) : (a.le b || b.le a) = true := by
  have hswap : AxisLookup.compare a.lookup b.lookup =
      (AxisLookup.compare b.lookup a.lookup).swap := Std.OrientedCmp.eq_swap
  rw [Bool.or_eq_true, le_iff, le_iff, hswap]
  cases AxisLookup.compare b.lookup a.lookup <;> decide

/-- Filters of one run that stand in either order are equal. -/
theorem le_antisymm {a b : AxisFilter} (hcombinator : a.combinator = b.combinator)
    (hab : a.le b = true) (hba : b.le a = true) : a = b := by
  rw [le_iff] at hab hba
  have hlookup : a.lookup = b.lookup :=
    AxisLookup.eq_of_compare_eq (Std.OrientedCmp.isLE_antisymm hab hba)
  obtain ⟨combinator, lookup⟩ := a
  obtain ⟨combinator', lookup'⟩ := b
  cases hcombinator
  cases hlookup
  rfl

end AxisFilter

/-! ### Runs -/

/-- Two filters that share a combinator. -/
def sameCombinator (a b : AxisFilter) : Bool :=
  a.combinator == b.combinator

/-- The maximal runs of filters that share a combinator. -/
def filterRuns (filters : List AxisFilter) : List (List AxisFilter) :=
  filters.splitBy sameCombinator

/-- The runs of two rows of filters hold the same filters, each in any order. -/
def SameRuns (filters others : List AxisFilter) : Prop :=
  List.Forall₂ List.Perm (filterRuns filters) (filterRuns others)

/-- Filters, and at least one, with the given combinator. -/
structure IsRun (combinator : Combinator) (run : List AxisFilter) : Prop where
  ne_nil : run ≠ []
  combinator_eq : ∀ filter ∈ run, filter.combinator = combinator

theorem IsRun.perm {combinator : Combinator} {run other : List AxisFilter}
    (h : IsRun combinator run) (hperm : run.Perm other) : IsRun combinator other := by
  refine ⟨fun hnil => h.ne_nil (List.perm_nil.1 (hnil ▸ hperm)), fun filter hfilter => ?_⟩
  exact h.combinator_eq filter (hperm.mem_iff.2 hfilter)

theorem isChain_sameCombinator_iff {run : List AxisFilter} (hne : run ≠ []) :
    run.IsChain (fun a b => sameCombinator a b = true) ↔ ∃ c, IsRun c run := by
  have hiff : ∀ a b, sameCombinator a b = true ↔ a.combinator = b.combinator := by
    simp [sameCombinator]
  simp only [hiff]
  constructor
  · intro h
    obtain ⟨first, rest, rfl⟩ := List.exists_cons_of_ne_nil hne
    refine ⟨first.combinator, hne, fun filter hfilter => ?_⟩
    -- every filter of a chain has the combinator of the first
    have htrans : IsTrans AxisFilter fun a b => a.combinator = b.combinator :=
      ⟨fun _ _ _ => Eq.trans⟩
    rcases List.mem_cons.1 hfilter with rfl | hfilter
    · rfl
    · exact (List.rel_of_pairwise_cons (List.isChain_iff_pairwise.1 h) hfilter).symm
  · rintro ⟨c, h⟩
    refine List.Pairwise.isChain (List.pairwise_of_forall_mem_list fun a ha b hb => ?_)
    rw [h.combinator_eq a ha, h.combinator_eq b hb]

/-- Runs, each of another combinator than the one before it. -/
inductive AreRuns : List (List AxisFilter) → Prop where
  | nil : AreRuns []
  | single {c : Combinator} {run : List AxisFilter} : IsRun c run → AreRuns [run]
  | cons {c d : Combinator} {run next : List AxisFilter} {runs : List (List AxisFilter)} :
      IsRun c run → IsRun d next → c ≠ d → AreRuns (next :: runs) → AreRuns (run :: next :: runs)

/-- Two runs meet where the combinator changes. -/
theorem sameCombinator_getLast_head {run next : List AxisFilter} {c d : Combinator}
    (hrun : IsRun c run) (hnext : IsRun d next) :
    (∃ ha hb, sameCombinator (run.getLast ha) (next.head hb) = false) ↔ c ≠ d := by
  have hlast := hrun.combinator_eq _ (List.getLast_mem hrun.ne_nil)
  have hhead := hnext.combinator_eq _ (List.head_mem hnext.ne_nil)
  simp [sameCombinator, hlast, hhead, hrun.ne_nil, hnext.ne_nil]

theorem areRuns_iff {runs : List (List AxisFilter)} :
    AreRuns runs ↔ (∀ run ∈ runs, ∃ c, IsRun c run) ∧
      runs.IsChain fun a b => ∃ ha hb, sameCombinator (a.getLast ha) (b.head hb) = false := by
  constructor
  · intro h
    induction h with
    | nil => exact ⟨nofun, .nil⟩
    | single hrun => exact ⟨by simpa using ⟨_, hrun⟩, .singleton _⟩
    | cons hrun hnext hne _ ih =>
      refine ⟨List.forall_mem_cons.2 ⟨⟨_, hrun⟩, ih.1⟩, .cons_cons ?_ ih.2⟩
      exact (sameCombinator_getLast_head hrun hnext).2 hne
  · rintro ⟨hruns, hchain⟩
    induction hchain with
    | nil => exact .nil
    | singleton run =>
      obtain ⟨c, hrun⟩ := hruns run List.mem_cons_self
      exact .single hrun
    | cons_cons hmeet _ ih =>
      obtain ⟨⟨c, hrun⟩, hruns⟩ := List.forall_mem_cons.1 hruns
      obtain ⟨d, hnext⟩ := hruns _ List.mem_cons_self
      exact .cons hrun hnext ((sameCombinator_getLast_head hrun hnext).1 hmeet) (ih hruns)

/-- The runs of a row of filters are the only ones that it falls into. -/
theorem filterRuns_eq_iff {filters : List AxisFilter} {runs : List (List AxisFilter)} :
    filterRuns filters = runs ↔ filters = runs.flatten ∧ AreRuns runs := by
  rw [filterRuns, List.splitBy_eq_iff, areRuns_iff]
  refine and_congr_right ?_
  intro _
  constructor
  · rintro ⟨hnil, hchains, hmeet⟩
    refine ⟨fun run hrun => ?_, hmeet⟩
    have hne : run ≠ [] := fun h => hnil (h ▸ hrun)
    exact (isChain_sameCombinator_iff hne).1 (hchains run hrun)
  · rintro ⟨hruns, hmeet⟩
    refine ⟨fun hnil => ?_, fun run hrun => ?_, hmeet⟩
    · obtain ⟨c, hrun⟩ := hruns [] hnil
      exact hrun.ne_nil rfl
    · obtain ⟨c, hrun⟩ := hruns run hrun
      exact (isChain_sameCombinator_iff hrun.ne_nil).2 ⟨c, hrun⟩

theorem AreRuns.perm {runs others : List (List AxisFilter)} (h : AreRuns runs)
    (hperm : List.Forall₂ List.Perm runs others) : AreRuns others := by
  induction h generalizing others with
  | nil =>
    cases hperm
    exact .nil
  | single hrun =>
    obtain ⟨other, _, hfirst, hnil, rfl⟩ := List.forall₂_cons_left_iff.1 hperm
    cases hnil
    exact .single (hrun.perm hfirst)
  | cons hrun hnext hne _ ih =>
    obtain ⟨other, rest, hfirst, hrest, rfl⟩ := List.forall₂_cons_left_iff.1 hperm
    obtain ⟨other', rest', hsecond, hrest', rfl⟩ := List.forall₂_cons_left_iff.1 hrest
    exact .cons (hrun.perm hfirst) (hnext.perm hsecond) hne (ih hrest)

/-! ### Sorted runs -/

/-- A run in the order of filters. -/
def sortRun (run : List AxisFilter) : List AxisFilter :=
  run.mergeSort AxisFilter.le

theorem sortRun_perm (run : List AxisFilter) : (sortRun run).Perm run :=
  List.mergeSort_perm run _

theorem pairwise_sortRun (run : List AxisFilter) :
    (sortRun run).Pairwise fun a b => a.le b = true :=
  List.pairwise_mergeSort AxisFilter.le_trans AxisFilter.le_total run

theorem sortRuns_eq_flatten (filters : List AxisFilter) :
    sortRuns filters = ((filterRuns filters).map sortRun).flatten := rfl

theorem forall₂_perm_map_sortRun (runs : List (List AxisFilter)) :
    List.Forall₂ List.Perm runs (runs.map sortRun) := by
  induction runs with
  | nil => exact .nil
  | cons run runs ih => exact .cons (sortRun_perm run).symm ih

theorem sortRuns_perm (filters : List AxisFilter) : (sortRuns filters).Perm filters := by
  have hflatten : (filterRuns filters).flatten = filters := List.flatten_splitBy _ _
  rw [sortRuns_eq_flatten]
  conv => rhs; rw [← hflatten]
  generalize filterRuns filters = runs
  induction runs with
  | nil => exact .nil
  | cons run runs ih => exact (sortRun_perm run).append ih

/-- Sorting keeps the runs apart. -/
theorem filterRuns_sortRuns (filters : List AxisFilter) :
    filterRuns (sortRuns filters) = (filterRuns filters).map sortRun := by
  obtain ⟨-, hruns⟩ := filterRuns_eq_iff.1 (Eq.refl (filterRuns filters))
  exact filterRuns_eq_iff.2 ⟨rfl, hruns.perm (forall₂_perm_map_sortRun _)⟩

/-- Runs with the same filters are sorted alike. -/
theorem sortRun_eq_of_perm {c : Combinator} {run other : List AxisFilter} (hrun : IsRun c run)
    (hperm : run.Perm other) : sortRun run = sortRun other := by
  -- two sorted permutations are equal, as filters of one run are linearly ordered
  have hsorted : (sortRun run).Perm (sortRun other) :=
    ((sortRun_perm run).trans hperm).trans (sortRun_perm other).symm
  refine List.Perm.eq_of_pairwise (fun a b ha hb hab hba => ?_) (pairwise_sortRun run)
    (pairwise_sortRun other) hsorted
  have hrun' := hrun.perm (sortRun_perm run).symm
  have hother' := hrun'.perm hsorted
  exact AxisFilter.le_antisymm
    ((hrun'.combinator_eq a ha).trans (hother'.combinator_eq b hb).symm) hab hba

theorem map_sortRun_eq_iff {runs others : List (List AxisFilter)} (h : AreRuns runs) :
    runs.map sortRun = others.map sortRun ↔ List.Forall₂ List.Perm runs others := by
  constructor
  · intro heq
    -- both rows of runs are permuted into the sorted one
    have hfirst := forall₂_perm_map_sortRun runs
    rw [heq, List.forall₂_map_right_iff] at hfirst
    exact hfirst.imp fun _ other h => h.trans (sortRun_perm other)
  · intro hperm
    obtain ⟨hruns, -⟩ := areRuns_iff.1 h
    clear h
    induction hperm with
    | nil => rfl
    | cons hfirst _ ih =>
      obtain ⟨⟨c, hrun⟩, hruns⟩ := List.forall_mem_cons.1 hruns
      rw [List.map_cons, List.map_cons, sortRun_eq_of_perm hrun hfirst, ih hruns]

/-- **Two rows of filters are sorted alike exactly if their runs hold the same filters.** -/
theorem sortRuns_eq_sortRuns_iff {filters others : List AxisFilter} :
    sortRuns filters = sortRuns others ↔ SameRuns filters others := by
  obtain ⟨-, hruns⟩ := filterRuns_eq_iff.1 (Eq.refl (filterRuns filters))
  rw [SameRuns, ← map_sortRun_eq_iff hruns]
  constructor
  · intro h
    rw [← filterRuns_sortRuns, ← filterRuns_sortRuns, h]
  · intro h
    rw [sortRuns_eq_flatten, sortRuns_eq_flatten, h]

theorem sameRuns_sortRuns (filters : List AxisFilter) : SameRuns filters (sortRuns filters) := by
  rw [SameRuns, filterRuns_sortRuns]
  exact forall₂_perm_map_sortRun _

theorem sortRuns_sortRuns (filters : List AxisFilter) :
    sortRuns (sortRuns filters) = sortRuns filters :=
  (sortRuns_eq_sortRuns_iff.2 (sameRuns_sortRuns filters)).symm

end Axial
