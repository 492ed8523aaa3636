import Mathlib.Data.Finset.Card
import Mathlib.Data.List.Basic
import Axial.Regex.Basic

/-!
# The matcher finds all matches

What a regular expression matches is a relation on the places of a text. The matcher computes the
image of a list of places under this relation. A repetition is a number of steps of its body: the
matcher takes the least number of them, and then goes on as long as new places turn up. There are
only so many places, so that it has seen all when it stops.

* `Chain` : a number of steps of a relation.
* `steps_iff_chain` : a repetition is a number of steps within its bounds.
* `Computes` : a function on lists of places that computes the image under a relation.
* `Computes.mem_advance`, `Computes.mem_reach`, `Computes.mem_reach_all` : the parts of a
  repetition.
* `Regex.computes_image` : the image that the matcher computes.
* `Regex.isMatch_iff` : whether there is a match anywhere.
-/

namespace Axial

/-! ### Steps -/

/-- So many steps of a relation. -/
def Chain (relation : Nat → Nat → Prop) : Nat → Nat → Nat → Prop
  | 0, i, j => i = j
  | n + 1, i, k => ∃ j, relation i j ∧ Chain relation n j k

section Chain

variable {relation : Nat → Nat → Prop} {i j k m n : Nat}

theorem chain_add : Chain relation (m + n) i k ↔
    ∃ j, Chain relation m i j ∧ Chain relation n j k := by
  induction m generalizing i with
  | zero => simp [Chain]
  | succ m ih =>
    rw [Nat.add_right_comm]
    simp only [Chain, ih]
    constructor
    · rintro ⟨next, hnext, j, hj, hk⟩
      exact ⟨j, ⟨next, hnext, hj⟩, hk⟩
    · rintro ⟨j, ⟨next, hnext, hj⟩, hk⟩
      exact ⟨next, hnext, j, hj, hk⟩

/-- A set of places that no step leaves is not left by any number of steps. -/
theorem Chain.of_closed {P : Nat → Prop} (h : Chain relation n i j)
    (hclosed : ∀ i j, P i → relation i j → P j) (hi : P i) : P j := by
  induction n generalizing i with
  | zero => exact h ▸ hi
  | succ n ih =>
    obtain ⟨next, hnext, h⟩ := h
    exact ih h (hclosed i next hi hnext)

/-- A repetition is a number of steps within its bounds. -/
theorem Regex.steps_iff_chain {least : Nat} {most : Option Nat} :
    Steps relation least most i j ↔
      ∃ n, least ≤ n ∧ (∀ bound ∈ most, n ≤ bound) ∧ Chain relation n i j := by
  constructor
  · intro h
    induction h with
    | done most i => exact ⟨0, Nat.le_refl 0, fun _ _ => Nat.zero_le _, rfl⟩
    | @more least most i j k hmost head _ ih =>
      obtain ⟨n, hleast, hbound, hchain⟩ := ih
      refine ⟨n + 1, by omega, fun bound hmem => ?_, j, head, hchain⟩
      have hn := hbound (bound - 1) (Option.mem_map_of_mem (· - 1) hmem)
      have hpos : bound ≠ 0 := by
        rintro rfl
        exact hmost hmem
      omega
  · rintro ⟨n, hleast, hbound, hchain⟩
    induction n generalizing least most i with
    | zero =>
      obtain rfl : least = 0 := by omega
      cases hchain
      exact .done most _
    | succ n ih =>
      obtain ⟨next, hnext, hchain⟩ := hchain
      refine .more ?_ hnext (ih (by omega) ?_ hchain)
      · rintro rfl
        exact absurd (hbound 0 rfl) (by omega)
      · intro bound hmem
        obtain ⟨whole, hwhole, rfl⟩ := Option.mem_map.1 hmem
        have := hbound whole hwhole
        omega

end Chain

/-! ### Images -/

/-- A function computes the image of places of a text under a relation, which leads to no place
beyond the text. -/
structure Computes (size : Nat) (relation : Nat → Nat → Prop) (step : List Nat → List Nat) :
    Prop where
  le : ∀ {i j}, i ≤ size → relation i j → j ≤ size
  mem_iff : ∀ {places}, (∀ i ∈ places, i ≤ size) →
    ∀ j, j ∈ step places ↔ ∃ i ∈ places, relation i j

namespace Computes

open Regex

variable {size : Nat} {relation : Nat → Nat → Prop} {step : List Nat → List Nat}
  {places newest : List Nat} (h : Computes size relation step)

include h

theorem le_of_mem (hplaces : ∀ i ∈ places, i ≤ size) : ∀ j ∈ step places, j ≤ size := by
  intro j hj
  obtain ⟨i, hi, hij⟩ := (h.mem_iff hplaces j).1 hj
  exact h.le (hplaces i hi) hij

omit h in
/-- A step that changes nothing may be left out. -/
theorem advance_eq_iterate (n : Nat) (places : List Nat) :
    advance step n places = step^[n] places := by
  induction n generalizing places with
  | zero => rfl
  | succ n ih =>
    rw [advance, Function.iterate_succ_apply]
    split
    · next hfixed => rw [hfixed, Function.iterate_fixed hfixed]
    · exact ih (step places)

/-- The places after some steps. -/
theorem mem_advance (n : Nat) (hplaces : ∀ i ∈ places, i ≤ size) (j : Nat) :
    j ∈ advance step n places ↔ ∃ i ∈ places, Chain relation n i j := by
  rw [advance_eq_iterate]
  induction n generalizing places with
  | zero => simp [Chain]
  | succ n ih =>
    rw [Function.iterate_succ_apply, ih (h.le_of_mem hplaces)]
    simp only [h.mem_iff hplaces, Chain]
    constructor
    · rintro ⟨k, ⟨i, hi, hik⟩, hchain⟩
      exact ⟨i, hi, k, hik, hchain⟩
    · rintro ⟨i, hi, k, hik, hchain⟩
      exact ⟨k, ⟨i, hi, hik⟩, hchain⟩

theorem le_of_mem_advance (n : Nat) (hplaces : ∀ i ∈ places, i ≤ size) :
    ∀ j ∈ advance step n places, j ≤ size := by
  intro j hj
  obtain ⟨i, hi, hchain⟩ := (h.mem_advance n hplaces j).1 hj
  exact hchain.of_closed (fun _ _ => h.le) (hplaces i hi)

/-! ### Exploration -/

/-- All places but the newest ones have had their turn. -/
def Explored (relation : Nat → Nat → Prop) (places newest : List Nat) : Prop :=
  newest ⊆ places ∧ ∀ i ∈ places, i ∉ newest → ∀ j, relation i j → j ∈ places

/-- One round gives the newest places their turn. -/
theorem mem_round (hplaces : ∀ i ∈ places, i ≤ size) (hexplored : Explored relation places newest)
    {i j : Nat} (hi : i ∈ places) (hij : relation i j) :
    j ∈ places ++ (step newest).filter (· ∉ places) := by
  obtain ⟨hsub, hturn⟩ := hexplored
  by_cases hmem : j ∈ places
  · exact List.mem_append_left _ hmem
  · have hnew : i ∈ newest := by
      by_contra hold
      exact hmem (hturn i hi hold j hij)
    have hj := (h.mem_iff (fun i hi => hplaces i (hsub hi)) j).2 ⟨i, hnew, hij⟩
    exact List.mem_append_right _ (List.mem_filter.2 ⟨hj, decide_eq_true hmem⟩)

theorem explored_round (hplaces : ∀ i ∈ places, i ≤ size)
    (hexplored : Explored relation places newest) :
    Explored relation (places ++ (step newest).filter (· ∉ places))
      ((step newest).filter (· ∉ places)) := by
  refine ⟨List.subset_append_right _ _, fun i hi hold j hij => ?_⟩
  have hi : i ∈ places := (List.mem_append.1 hi).resolve_right hold
  exact h.mem_round hplaces hexplored hi hij

theorem exists_of_mem_round (hplaces : ∀ i ∈ places, i ≤ size)
    (hexplored : Explored relation places newest) {j : Nat}
    (hj : j ∈ (step newest).filter (· ∉ places)) : ∃ i ∈ places, relation i j := by
  have hnewest : ∀ i ∈ newest, i ≤ size := fun i hi => hplaces i (hexplored.1 hi)
  obtain ⟨i, hi, hij⟩ := (h.mem_iff hnewest j).1 (List.mem_of_mem_filter hj)
  exact ⟨i, hexplored.1 hi, hij⟩

theorem le_of_mem_round (hplaces : ∀ i ∈ places, i ≤ size)
    (hexplored : Explored relation places newest) :
    ∀ j ∈ places ++ (step newest).filter (· ∉ places), j ≤ size := by
  intro j hj
  rcases List.mem_append.1 hj with hj | hj
  · exact hplaces j hj
  · obtain ⟨i, hi, hij⟩ := h.exists_of_mem_round hplaces hexplored hj
    exact h.le (hplaces i hi) hij

/-- Places that lead to no new ones are left by no step. -/
theorem closed_of_round_eq_nil (hplaces : ∀ i ∈ places, i ≤ size)
    (hexplored : Explored relation places newest)
    (hfresh : (step newest).filter (· ∉ places) = []) (i j : Nat) (hi : i ∈ places)
    (hij : relation i j) : j ∈ places := by
  have hj := h.mem_round hplaces hexplored hi hij
  rwa [hfresh, List.append_nil] at hj

theorem mem_reachFrom (n : Nat) (hplaces : ∀ i ∈ places, i ≤ size)
    (hexplored : Explored relation places newest) (j : Nat) :
    j ∈ reachFrom step n places newest ↔ ∃ m ≤ n, ∃ i ∈ places, Chain relation m i j := by
  induction n generalizing places newest with
  | zero => simp [reachFrom, Chain]
  | succ n ih =>
    rw [reachFrom]
    split
    · next hfresh =>
      constructor
      · intro hj
        exact ⟨0, Nat.zero_le _, j, hj, rfl⟩
      · rintro ⟨m, -, i, hi, hchain⟩
        exact hchain.of_closed (h.closed_of_round_eq_nil hplaces hexplored hfresh) hi
    · rw [ih (h.le_of_mem_round hplaces hexplored) (h.explored_round hplaces hexplored)]
      constructor
      · rintro ⟨m, hm, i, hi, hchain⟩
        rcases List.mem_append.1 hi with hi | hi
        · exact ⟨m, by omega, i, hi, hchain⟩
        · obtain ⟨i', hi', hstep⟩ := h.exists_of_mem_round hplaces hexplored hi
          exact ⟨m + 1, by omega, i', hi', i, hstep, hchain⟩
      · rintro ⟨m, hm, i, hi, hchain⟩
        cases m with
        | zero => exact ⟨0, Nat.zero_le _, i, List.mem_append_left _ hi, hchain⟩
        | succ m =>
          obtain ⟨k, hik, hchain⟩ := hchain
          exact ⟨m, by omega, k, h.mem_round hplaces hexplored hi hik, hchain⟩

omit h in
theorem explored_self (relation : Nat → Nat → Prop) (places : List Nat) :
    Explored relation places places :=
  ⟨List.Subset.refl places, fun _ hi hold => absurd hi hold⟩

/-- The places after at most so many steps. -/
theorem mem_reach (n : Nat) (hplaces : ∀ i ∈ places, i ≤ size) (j : Nat) :
    j ∈ reach step n places ↔ ∃ m ≤ n, ∃ i ∈ places, Chain relation m i j :=
  h.mem_reachFrom n hplaces (explored_self relation places) j

omit h in
theorem card_le (hplaces : ∀ i ∈ places, i ≤ size) : places.toFinset.card ≤ size + 1 := by
  have hsub : places.toFinset ⊆ Finset.range (size + 1) := by
    intro i hi
    exact Finset.mem_range.2 (Nat.lt_succ_of_le (hplaces i (List.mem_toFinset.1 hi)))
  simpa using Finset.card_le_card hsub

omit h in
/-- A round that does not stop finds a place that is new. -/
theorem card_lt_round (hfresh : (step newest).filter (· ∉ places) ≠ []) :
    places.toFinset.card < (places ++ (step newest).filter (· ∉ places)).toFinset.card := by
  obtain ⟨j, hj⟩ := List.exists_mem_of_ne_nil _ hfresh
  have hnew : j ∉ places := of_decide_eq_true (List.mem_filter.1 hj).2
  refine Finset.card_lt_card ((Finset.ssubset_iff_of_subset ?_).2 ⟨j, ?_, ?_⟩)
  · intro i hi
    exact List.mem_toFinset.2 (List.mem_append_left _ (List.mem_toFinset.1 hi))
  · exact List.mem_toFinset.2 (List.mem_append_right _ hj)
  · exact fun hmem => hnew (List.mem_toFinset.1 hmem)

/-- With enough rounds the exploration stops where no step leads to a new place. -/
theorem closed_reachFrom (n : Nat) (hplaces : ∀ i ∈ places, i ≤ size)
    (hexplored : Explored relation places newest)
    (hrounds : size + 1 < places.toFinset.card + n) (i j : Nat)
    (hi : i ∈ reachFrom step n places newest) (hij : relation i j) :
    j ∈ reachFrom step n places newest := by
  induction n generalizing places newest with
  | zero =>
    have := card_le hplaces
    omega
  | succ n ih =>
    rw [reachFrom] at hi ⊢
    split at hi
    · next hfresh =>
      rw [if_pos hfresh]
      exact h.closed_of_round_eq_nil hplaces hexplored hfresh i j hi hij
    · next hfresh =>
      rw [if_neg hfresh]
      have hgrows := card_lt_round hfresh
      exact ih (h.le_of_mem_round hplaces hexplored) (h.explored_round hplaces hexplored)
        (by omega) hi

/-- The places after any number of steps. -/
theorem mem_reach_all (hplaces : ∀ i ∈ places, i ≤ size) (j : Nat) :
    j ∈ reach step (size + 1) places ↔ ∃ m, ∃ i ∈ places, Chain relation m i j := by
  constructor
  · intro hj
    obtain ⟨m, -, hm⟩ := (h.mem_reach _ hplaces j).1 hj
    exact ⟨m, hm⟩
  · rintro ⟨m, i, hi, hchain⟩
    have hcard : 0 < places.toFinset.card :=
      Finset.card_pos.2 ⟨i, List.mem_toFinset.2 hi⟩
    have hstart : i ∈ reach step (size + 1) places :=
      (h.mem_reach _ hplaces i).2 ⟨0, Nat.zero_le _, i, hi, rfl⟩
    refine hchain.of_closed (fun k l hk hkl => ?_) hstart
    exact h.closed_reachFrom _ hplaces (explored_self relation places) (by omega) k l hk hkl

end Computes

/-! ### Expressions -/

namespace Regex

/-- The bounds of all repetitions are in order. -/
def Ordered : Regex → Prop
  | seq first second => first.Ordered ∧ second.Ordered
  | alt left right => left.Ordered ∧ right.Ordered
  | repetition body least most _ => body.Ordered ∧ ∀ bound ∈ most, least ≤ bound
  | group _ body => body.Ordered
  | _ => True

theorem mem_join {places more : List Nat} {j : Nat} :
    j ∈ join places more ↔ j ∈ places ∨ j ∈ more := by
  rw [join, List.mem_append, List.mem_filter]
  by_cases hj : j ∈ places
  · simp [hj]
  · simp [hj]

section Image

variable {text : Array Char} {first second : Regex}

theorem computes_char (set : CharSet) :
    Computes text.size ((char set).Matches text) ((char set).image text) where
  le {i j} hi hij := by
    obtain ⟨rfl, c, hc, -⟩ := hij
    obtain ⟨hlt, -⟩ := Array.getElem?_eq_some_iff.1 hc
    omega
  mem_iff {places} hplaces j := by
    simp only [image, Matches, List.mem_map, List.mem_filter, Option.any_eq_true]
    constructor
    · rintro ⟨i, ⟨hi, hc⟩, rfl⟩
      exact ⟨i, hi, rfl, hc⟩
    · rintro ⟨i, hi, rfl, hc⟩
      exact ⟨i, ⟨hi, hc⟩, rfl⟩

theorem computes_anchor (a : Anchor) :
    Computes text.size ((anchor a).Matches text) ((anchor a).image text) where
  le {i j} hi hij := hij.1 ▸ hi
  mem_iff {places} hplaces j := by
    simp only [image, Matches, List.mem_filter]
    constructor
    · rintro ⟨hj, hholds⟩
      exact ⟨j, hj, rfl, hholds⟩
    · rintro ⟨i, hi, rfl, hholds⟩
      exact ⟨hi, hholds⟩

theorem computes_seq (hfirst : Computes text.size (first.Matches text) (first.image text))
    (hsecond : Computes text.size (second.Matches text) (second.image text)) :
    Computes text.size ((seq first second).Matches text) ((seq first second).image text) where
  le {i k} hi hik := by
    obtain ⟨j, hij, hjk⟩ := hik
    exact hsecond.le (hfirst.le hi hij) hjk
  mem_iff {places} hplaces k := by
    simp only [image, Matches, hsecond.mem_iff (hfirst.le_of_mem hplaces),
      hfirst.mem_iff hplaces]
    constructor
    · rintro ⟨j, ⟨i, hi, hij⟩, hjk⟩
      exact ⟨i, hi, j, hij, hjk⟩
    · rintro ⟨i, hi, j, hij, hjk⟩
      exact ⟨j, ⟨i, hi, hij⟩, hjk⟩

theorem computes_alt (hfirst : Computes text.size (first.Matches text) (first.image text))
    (hsecond : Computes text.size (second.Matches text) (second.image text)) :
    Computes text.size ((alt first second).Matches text) ((alt first second).image text) where
  le {i j} hi hij := hij.elim (hfirst.le hi) (hsecond.le hi)
  mem_iff {places} hplaces j := by
    simp only [image, Matches, mem_join, hfirst.mem_iff hplaces, hsecond.mem_iff hplaces,
      and_or_left, exists_or]

theorem computes_repetition {body : Regex} {least : Nat} {most : Option Nat} {greedy : Bool}
    (hbody : Computes text.size (body.Matches text) (body.image text))
    (hbounds : ∀ bound ∈ most, least ≤ bound) :
    Computes text.size ((repetition body least most greedy).Matches text)
      ((repetition body least most greedy).image text) where
  le {i j} hi hij := by
    obtain ⟨n, -, -, hchain⟩ := steps_iff_chain.1 hij
    exact hchain.of_closed (fun _ _ => hbody.le) hi
  mem_iff {places} hplaces k := by
    have hstart := hbody.le_of_mem_advance least hplaces
    simp only [image, Matches, steps_iff_chain]
    cases most with
    | none =>
      simp only [hbody.mem_reach_all hstart, hbody.mem_advance least hplaces]
      constructor
      · rintro ⟨m, j, ⟨i, hi, hij⟩, hjk⟩
        exact ⟨i, hi, least + m, Nat.le_add_right _ _, nofun, chain_add.2 ⟨j, hij, hjk⟩⟩
      · rintro ⟨i, hi, n, hleast, -, hchain⟩
        obtain ⟨m, rfl⟩ := Nat.exists_eq_add_of_le hleast
        obtain ⟨j, hij, hjk⟩ := chain_add.1 hchain
        exact ⟨m, j, ⟨i, hi, hij⟩, hjk⟩
    | some most =>
      have hle : least ≤ most := hbounds most rfl
      simp only [hbody.mem_reach _ hstart, hbody.mem_advance least hplaces, Option.mem_some_iff,
        forall_eq']
      constructor
      · rintro ⟨m, hm, j, ⟨i, hi, hij⟩, hjk⟩
        exact ⟨i, hi, least + m, Nat.le_add_right _ _, by omega, chain_add.2 ⟨j, hij, hjk⟩⟩
      · rintro ⟨i, hi, n, hleast, hmost, hchain⟩
        obtain ⟨m, rfl⟩ := Nat.exists_eq_add_of_le hleast
        obtain ⟨j, hij, hjk⟩ := chain_add.1 hchain
        exact ⟨m, by omega, j, ⟨i, hi, hij⟩, hjk⟩

/-- The matcher computes the places where matches end. -/
theorem computes_image {regex : Regex} (h : regex.Ordered) (text : Array Char) :
    Computes text.size (regex.Matches text) (regex.image text) := by
  induction regex with
  | empty =>
    exact ⟨fun hi hij => hij ▸ hi, fun hplaces j => by simp [image, Matches]⟩
  | char set => exact computes_char set
  | anchor a => exact computes_anchor a
  | seq first second hfirst hsecond => exact computes_seq (hfirst h.1) (hsecond h.2)
  | alt left right hleft hright => exact computes_alt (hleft h.1) (hright h.2)
  | repetition body least most greedy hbody => exact computes_repetition (hbody h.1) h.2
  | group number body hbody => exact hbody h

end Image

/-- **The matcher finds a match if there is one.** -/
theorem isMatch_iff {regex : Regex} (h : regex.Ordered) (text : String) :
    regex.isMatch text = true ↔
      ∃ i ≤ text.toList.toArray.size, ∃ j, regex.Matches text.toList.toArray i j := by
  have hplaces : ∀ i ∈ List.range (text.toList.toArray.size + 1), i ≤ text.toList.toArray.size :=
    fun i hi => Nat.le_of_lt_succ (List.mem_range.1 hi)
  have hmem := (computes_image h text.toList.toArray).mem_iff hplaces
  rw [isMatch, Bool.not_eq_true', List.isEmpty_eq_false_iff_exists_mem]
  constructor
  · rintro ⟨j, hj⟩
    obtain ⟨i, hi, hij⟩ := (hmem j).1 hj
    exact ⟨i, hplaces i hi, j, hij⟩
  · rintro ⟨i, hi, j, hij⟩
    exact ⟨j, (hmem j).2 ⟨i, List.mem_range.2 (Nat.lt_succ_of_le hi), hij⟩⟩

end Regex

end Axial
