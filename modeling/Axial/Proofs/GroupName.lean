import Mathlib.Data.List.Forall2
import Axial.Regex.Parser

/-!
# The names of groups

A name goes on with letters and digits of all scripts, which are known from tables. A parenthesis is
in none of these, so it ends a name. A union of sets is a long way from the sets, for their ranges
are sorted and joined; but this adds no character.

* `CharSet.mem_unions_eq_false` : what is in no set is not in the union.
* `Pattern.continuesName_close` : a closing parenthesis ends a name.
-/

namespace Axial

namespace CharSet

/-- Joining ranges that touch adds no characters. -/
theorem has_of_joinFrom {first last n : Nat} {ranges : List (Nat × Nat)}
    (h : (CharSet.mk (joinFrom first last ranges)).has n = true) :
    (first ≤ n ∧ n ≤ last) ∨ (CharSet.mk ranges).has n = true := by
  induction ranges generalizing first last with
  | nil => simpa [joinFrom, has] using h
  | cons range ranges ih =>
    obtain ⟨a, b⟩ := range
    rw [joinFrom] at h
    simp only [has, List.any_cons, Bool.or_eq_true, Bool.and_eq_true, decide_eq_true_eq] at ih ⊢
    split at h
    · rcases ih h with hn | hn
      · omega
      · exact .inr (.inr hn)
    · simp only [has, List.any_cons, Bool.or_eq_true, Bool.and_eq_true, decide_eq_true_eq] at h
      exact h.imp_right ih

theorem has_of_ofRanges {ranges : List (Nat × Nat)} {n : Nat}
    (h : (ofRanges ranges).has n = true) : (CharSet.mk ranges).has n = true := by
  have hperm := List.mergeSort_perm ranges fun r s => r.1 ≤ s.1
  suffices hsorted : (CharSet.mk (ranges.mergeSort fun r s => r.1 ≤ s.1)).has n = true by
    obtain ⟨range, hrange, hn⟩ := List.any_eq_true.1 hsorted
    exact List.any_eq_true.2 ⟨range, hperm.mem_iff.1 hrange, hn⟩
  rw [ofRanges] at h
  cases hr : ranges.mergeSort fun r s => r.1 ≤ s.1 with
  | nil => rwa [hr] at h
  | cons range rest =>
    rw [hr] at h
    simpa [has] using has_of_joinFrom h

/-- What is in no set is not in the union. -/
theorem mem_unions_eq_false {sets : List CharSet} {c : Char}
    (h : ∀ set ∈ sets, set.mem c = false) : (unions sets).mem c = false := by
  rw [Bool.eq_false_iff]
  intro hmem
  obtain ⟨range, hrange, hc⟩ := List.any_eq_true.1 (has_of_ofRanges hmem)
  obtain ⟨set, hset, hrange⟩ := List.mem_flatMap.1 hrange
  have hin : set.mem c = true := List.any_eq_true.2 ⟨range, hrange, hc⟩
  exact Bool.false_ne_true ((h set hset).symm.trans hin)

end CharSet

/-! ### Tables -/

namespace Unicode

/-- A table is searched line by line, once its lines are known by their characters. -/
theorem mem_readRanges_eq_false {lines : List String} {rows : List (List Char)} {c : Char}
    (hlines : List.Forall₂ (fun line row => line = String.ofList row) lines rows)
    (hrows : ∀ row ∈ rows, (CharSet.mk (readLine none 0 row)).mem c = false) :
    (readRanges lines).mem c = false := by
  induction hlines with
  | nil => rfl
  | cons hline _ ih =>
    obtain ⟨hrow, hrows⟩ := List.forall_mem_cons.1 hrows
    have hrest := ih hrows
    simp only [readRanges, CharSet.mem, CharSet.has, List.flatMap_cons, hline,
      String.toList_ofList, List.any_append, Bool.or_eq_false_iff] at hrow hrest ⊢
    exact ⟨hrow, hrest⟩

theorem casedLetter_close : casedLetter.mem ')' = false := by
  have hupper : upperLetter.mem ')' = false := by
    exact mem_readRanges_eq_false (by repeat constructor) (by decide +kernel)
  have hlower : lowerLetter.mem ')' = false := by
    exact mem_readRanges_eq_false (by repeat constructor) (by decide +kernel)
  have htitle : titleLetter.mem ')' = false := by
    exact mem_readRanges_eq_false (by repeat constructor) (by decide +kernel)
  rw [casedLetter]
  exact CharSet.mem_unions_eq_false (by simp [hupper, hlower, htitle])

theorem letter_close : letter.mem ')' = false := by
  have hmodifier : modifierLetter.mem ')' = false := by
    exact mem_readRanges_eq_false (by repeat constructor) (by decide +kernel)
  have hother : otherLetter.mem ')' = false := by
    exact mem_readRanges_eq_false (by repeat constructor) (by decide +kernel)
  rw [letter]
  exact CharSet.mem_unions_eq_false (by simp [casedLetter_close, hmodifier, hother])

theorem letterNumber_close : letterNumber.mem ')' = false := by
  exact mem_readRanges_eq_false (by repeat constructor) (by decide +kernel)

theorem alphabetic_close : alphabetic.mem ')' = false := by
  have hother : otherAlphabetic.mem ')' = false := by
    exact mem_readRanges_eq_false (by repeat constructor) (by decide +kernel)
  rw [alphabetic]
  exact CharSet.mem_unions_eq_false (by simp [letter_close, letterNumber_close, hother])

theorem number_close : number.mem ')' = false := by
  have hdecimal : decimalNumber.mem ')' = false := by
    exact mem_readRanges_eq_false (by repeat constructor) (by decide +kernel)
  have hother : otherNumber.mem ')' = false := by
    exact mem_readRanges_eq_false (by repeat constructor) (by decide +kernel)
  rw [number]
  exact CharSet.mem_unions_eq_false (by simp [letterNumber_close, hdecimal, hother])

end Unicode

/-! ### Names -/

namespace Pattern

/-- A closing parenthesis ends a name. -/
theorem continuesName_close : continuesName ')' = false := by
  have hletters : newerLetters.mem ')' = false := by
    exact Unicode.mem_readRanges_eq_false (by repeat constructor) (by decide +kernel)
  have hnumbers : newerNumbers.mem ')' = false := by
    exact Unicode.mem_readRanges_eq_false (by repeat constructor) (by decide +kernel)
  simp only [continuesName, startsName, Unicode.alphabetic_close, Unicode.number_close, hletters,
    hnumbers]
  decide

end Pattern

end Axial
