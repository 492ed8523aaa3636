import Axial.Proofs.Matching
import Axial.Proofs.PatternRest
import Axial.Regex.Meaning

/-!
# Patterns that were read

A pattern that was read asks for no more times at least than at most, and so does the regular
expression that it means. The reader stops at the end of the text or at a closing parenthesis.

* `Pattern.Ordered` : the bounds of all repetitions are in order.
* `Pattern.isReading_alternatives` : this holds of what is read, and the rest starts as it should.
* `Pattern.Ordered.of_meaning?` : it holds of what a pattern means.
-/

namespace Axial

namespace Pattern

/-! ### Bounds in order -/

/-- The bounds of all repetitions are in order. -/
def Ordered : Pattern → Prop
  | repetition body least most _ => body.Ordered ∧ ∀ bound ∈ most, least ≤ bound
  | group _ _ body => body.Ordered
  | seq first second => first.Ordered ∧ second.Ordered
  | alt left right => left.Ordered ∧ right.Ordered
  | _ => True

/-- What a pattern means has its bounds in order if the pattern has. -/
theorem Ordered.of_regex? {pattern : Pattern} (h : pattern.Ordered) {flags after : Flags}
    {regex : Regex} (hregex : pattern.regex? flags = some (regex, after)) : regex.Ordered := by
  induction pattern generalizing flags after regex with
  | empty | place | flags =>
    cases hregex
    trivial
  | item found =>
    obtain ⟨set, -, hset⟩ := Option.map_eq_some_iff.1 hregex
    cases hset
    trivial
  | dot =>
    obtain ⟨set, -, hset⟩ := Option.map_eq_some_iff.1 hregex
    cases hset
    trivial
  | bracket negated inner =>
    obtain ⟨chars, -, hregex⟩ := Option.bind_eq_some_iff.1 hregex
    obtain ⟨set, -, hset⟩ := Option.bind_eq_some_iff.1 hregex
    cases hset
    trivial
  | repetition body least most greedy ih =>
    obtain ⟨⟨inner, flags'⟩, hbody, hinner⟩ := Option.bind_eq_some_iff.1 hregex
    cases hinner
    exact ⟨ih h.1 hbody, h.2⟩
  | group number changes body ih =>
    obtain ⟨⟨inner, flags'⟩, hbody, hinner⟩ := Option.bind_eq_some_iff.1 hregex
    cases hinner
    have hordered : inner.Ordered := ih h hbody
    exact hordered
  | seq first second hfirst hsecond =>
    obtain ⟨⟨front, flags'⟩, hf, hregex⟩ := Option.bind_eq_some_iff.1 hregex
    obtain ⟨⟨back, flags''⟩, hs, hboth⟩ := Option.bind_eq_some_iff.1 hregex
    cases hboth
    exact ⟨hfirst h.1 hf, hsecond h.2 hs⟩
  | alt left right hleft hright =>
    obtain ⟨⟨front, flags'⟩, hl, hregex⟩ := Option.bind_eq_some_iff.1 hregex
    obtain ⟨⟨back, flags''⟩, hr, hboth⟩ := Option.bind_eq_some_iff.1 hregex
    cases hboth
    exact ⟨hleft h.1 hl, hright h.2 hr⟩

theorem Ordered.of_meaning? {pattern : Pattern} (h : pattern.Ordered) {regex : Regex}
    (hregex : pattern.meaning? = some regex) : regex.Ordered := by
  obtain ⟨p, hp, rfl⟩ := Option.map_eq_some_iff.1 hregex
  exact h.of_regex? hp

theorem ordered_empty : Ordered .empty :=
  trivial

theorem ordered_flags (changes : FlagChanges) : Ordered (.flags changes) :=
  trivial

theorem Ordered.push {pattern part : Pattern} (h : pattern.Ordered) (hpart : part.Ordered) :
    (pattern.push part).Ordered := by
  unfold Pattern.push
  split
  · exact hpart
  · exact ⟨h, hpart⟩

theorem Ordered.orElse {earlier : Option Pattern} {last : Pattern}
    (hearlier : ∀ pattern ∈ earlier, pattern.Ordered) (hlast : last.Ordered) :
    (Pattern.orElse earlier last).Ordered := by
  cases earlier with
  | none => exact hlast
  | some earlier => exact ⟨hearlier earlier rfl, hlast⟩

/-! ### What is read -/

variable {verbose : Bool} {cs rest : List Char}

theorem le_of_mostAfter {least : Nat} {bounds : Nat × Option Nat}
    (h : mostAfter verbose least cs = some (bounds, rest)) :
    ∀ bound ∈ bounds.2, bounds.1 ≤ bound := by
  unfold mostAfter at h
  split at h
  · cases h
  · split at h
    · cases h
      rintro _ ⟨⟩
    · obtain ⟨⟨most, after⟩, -, h⟩ := Option.bind_eq_some_iff.1 h
      dsimp only at h
      split at h
      · cases h
      · obtain ⟨⟨-, hle⟩, h⟩ := Option.ite_none_right_eq_some.1 h
        cases h
        rintro _ ⟨⟩
        exact hle

theorem le_of_boundsAfter {least : Nat} {bounds : Nat × Option Nat}
    (h : boundsAfter verbose least cs = some (bounds, rest)) :
    ∀ bound ∈ bounds.2, bounds.1 ≤ bound := by
  unfold boundsAfter at h
  split at h
  · cases h
  · split at h
    · cases h
      rintro _ ⟨⟩
      exact Nat.le_refl _
    · split at h
      · exact le_of_mostAfter h
      · cases h

theorem le_of_readMark? {mark : Char} {bounds : Nat × Option Nat}
    (h : readMark? verbose mark cs = some (bounds, rest)) :
    ∀ bound ∈ bounds.2, bounds.1 ≤ bound := by
  by_cases hmark : mark ≠ '*' ∧ mark ≠ '+' ∧ mark ≠ '?'
  · rw [readMark?_brace hmark] at h
    obtain ⟨q, hbounds, hq⟩ := Option.map_eq_some_iff.1 h
    cases hq
    obtain ⟨p, -, h⟩ := Option.bind_eq_some_iff.1 hbounds
    exact le_of_boundsAfter h
  · unfold readMark? at h
    split at h
    · cases h
      exact nofun
    · split at h
      · cases h
        exact nofun
      · split at h
        · cases h
          rintro _ ⟨⟩
          exact Nat.zero_le 1
        · exact absurd ⟨‹_›, ‹_›, ‹_›⟩ hmark

theorem ordered_repetitions {cs : List Char} {body pattern : Pattern} (hbody : body.Ordered)
    (h : repetitions verbose body cs = some (pattern, rest)) : pattern.Ordered := by
  rw [repetitions_eq] at h
  split at h
  · cases h
    exact hbody
  · next c more hs =>
    split at h
    · obtain ⟨⟨bounds, after⟩, hbounds, h⟩ := Option.bind_eq_some_iff.1 h
      have hlength : (readGreed after).2.length < cs.length := by
        have := (suffix_readGreed after).length_le
        have := (leaves_readMark? verbose c more _ _ hbounds).length_le
        have := length_of_skip hs
        omega
      refine ordered_repetitions ?_ h
      exact ⟨hbody, le_of_readMark? hbounds⟩
    · cases h
      exact hbody
termination_by cs.length

theorem ordered_readAtom? {c : Char} {pattern : Pattern}
    (h : readAtom? verbose (c :: cs) = some (pattern, rest)) : pattern.Ordered := by
  rw [readAtom?_eq] at h
  split at h
  · obtain ⟨p, -, hp⟩ := Option.map_eq_some_iff.1 h
    cases hp
    trivial
  · split at h
    · obtain ⟨⟨escape, after⟩, -, hp⟩ := Option.map_eq_some_iff.1 h
      cases hp
      cases escape <;> trivial
    · obtain ⟨atom, hatom, hp⟩ := Option.map_eq_some_iff.1 h
      cases hp
      unfold plainAtom? at hatom
      grind [Ordered]

/-- What was read up to the end of a group. -/
structure IsReading (pattern : Pattern) (rest : List Char) : Prop where
  ordered : pattern.Ordered
  stops : ∀ c ∈ rest.head?, c = ')'

/-- **The bounds of a pattern that was read are in order**, and its reader stopped where a group
ends. -/
theorem isReading_alternatives {cs : List Char} {scope : Scope} {earlier : Option Pattern}
    {front : Pattern} {p : Pattern × Scope} {rest : List Char}
    (hearlier : ∀ pattern ∈ earlier, pattern.Ordered)
    (hfront : front.Ordered) (h : alternatives scope earlier front cs = some (p, rest)) :
    IsReading p.1 rest := by
  have hpart : ∀ scope part text, text.length < cs.length → part.Ordered →
      afterPart scope earlier front part text = some (p, rest) → IsReading p.1 rest := by
    intro scope part text htext hpart h
    obtain ⟨⟨repeated, after⟩, hrepeated, h⟩ := Option.bind_eq_some_iff.1 h
    have hafter := (leaves_repetitions _ _ text _ _ hrepeated).length_le
    exact isReading_alternatives hearlier (hfront.push (ordered_repetitions hpart hrepeated)) h
  rw [alternatives_eq] at h
  split at h
  · cases h
    exact ⟨.orElse hearlier hfront, by rintro _ ⟨⟩⟩
  next c more hs =>
  have hlength := length_of_skip hs
  split at h
  · next hc =>
    cases h
    exact ⟨.orElse hearlier hfront, by rintro _ ⟨⟩; exact hc⟩
  split at h
  · refine isReading_alternatives ?_ ordered_empty h
    rintro _ ⟨⟩
    exact .orElse hearlier hfront
  split at h
  · obtain ⟨⟨⟨opening, inner⟩, after⟩, ho, h⟩ := Option.bind_eq_some_iff.1 h
    have hafter := (leaves_opening? scope more _ _ ho).length_le
    cases opening with
    | flags changes => exact isReading_alternatives hearlier (hfront.push (ordered_flags changes)) h
    | group number changes =>
      obtain ⟨⟨body, closed⟩, hbody, h⟩ := Option.bind_eq_some_iff.1 h
      have hclosed := (leaves_alternatives inner none .empty after _ _ hbody).length_le
      have hnone : ∀ pattern ∈ (none : Option Pattern), pattern.Ordered := by rintro _ ⟨⟩
      have hreading := isReading_alternatives hnone ordered_empty hbody
      cases closed with
      | nil => cases h
      | cons d closed =>
        rw [List.length_cons] at hclosed
        exact hpart _ (.group number changes body.1) closed (by omega) hreading.ordered h
  · obtain ⟨⟨atom, after⟩, ha, h⟩ := Option.bind_eq_some_iff.1 h
    have hafter := (leaves_readAtom? scope.verbose c more _ _ ha).length_le
    exact hpart _ _ after (by omega) (ordered_readAtom? ha) h
termination_by cs.length
decreasing_by all_goals omega

theorem isReading_pattern {scope : Scope} {p : Pattern × Scope}
    (h : alternatives scope none .empty cs = some (p, rest)) : IsReading p.1 rest := by
  refine isReading_alternatives ?_ ordered_empty h
  exact nofun

end Pattern

end Axial
