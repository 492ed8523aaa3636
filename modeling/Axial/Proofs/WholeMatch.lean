import Axial.Proofs.PatternBounds
import Axial.Proofs.PatternEnding
import Axial.Proofs.StoreHistory
import Axial.Proofs.Success
import Axial.Query.OfExpr

/-!
# Matching whole values

A literal that values are matched with is put between `^(?:` and `)$`, and a value matches if the
whole does. This says what the literal says by itself of the whole value, unless a parenthesis of
the literal closes the group that is put around it, or a comment of the literal hides the end of
that group.

* `Pattern.ClosesEarly`, `Pattern.EndsInComment` : the two exceptions.
* `Regex.IsSpelledBy` : the regular expression of a literal by itself.
* `Pattern.parse?_wrapped`, `Regex.compileWhole?_eq_some` : what is made of the wrapped literal.
* `Regex.isMatch_whole` : it matches a value if the literal matches from its start to its end.
* `AxisLookup.values_matched` : the values of the match operators.
-/

namespace Axial

namespace Pattern

/-! ### The wrapped literal -/

/-- Reading stops at a closing parenthesis that closes no group of the text. -/
def ClosesEarly (text : String) : Prop :=
  ∃ result, readAlternatives {} none .empty text.toList = some result ∧ result.2.2.1 ≠ []

/-- The text is a pattern and ends in a comment: it is a pattern still if a parenthesis follows that
closes no group, so this is passed over. -/
def EndsInComment (text : String) : Prop :=
  (parse? text).isSome ∧ (parse? (text ++ ")$")).isSome

/-- A pattern between the start and the end of a text. -/
def whole (pattern : Pattern) : Pattern :=
  .seq (.seq (.place .caret) (.group none [] pattern)) (.place .dollar)

theorem parse?_eq_some {text : String} {pattern : Pattern} :
    parse? text = some pattern ↔
      ∃ last, alternatives {} none .empty text.toList = some ((pattern, last), []) := by
  unfold parse? alternatives
  constructor
  · intro h
    split at h
    · next hread =>
      cases h
      exact ⟨_, by rw [hread]; rfl⟩
    · cases h
  · rintro ⟨last, h⟩
    obtain ⟨⟨pattern', last', rest, hlength⟩, hread, h⟩ := Option.map_eq_some_iff.1 h
    cases h
    rw [hread]

theorem closesEarly_iff {text : String} :
    ClosesEarly text ↔
      ∃ p rest, alternatives {} none .empty text.toList = some (p, rest) ∧ rest ≠ [] := by
  unfold ClosesEarly alternatives
  constructor
  · rintro ⟨result, hread, hrest⟩
    exact ⟨_, _, by rw [hread]; rfl, hrest⟩
  · rintro ⟨p, rest, h, hrest⟩
    obtain ⟨result, hread, h⟩ := Option.map_eq_some_iff.1 h
    cases h
    exact ⟨result, hread, hrest⟩

theorem not_closesEarly {text : String} (h : (parse? text).isSome = true) : ¬ClosesEarly text := by
  obtain ⟨pattern, hpattern⟩ := Option.isSome_iff_exists.1 h
  obtain ⟨last, hread⟩ := parse?_eq_some.1 hpattern
  rw [closesEarly_iff]
  rintro ⟨p, rest, hread', hrest⟩
  cases hread.symm.trans hread'
  exact hrest rfl

/-- Before the literal stand the start of the text and the opening of a group. -/
theorem alternatives_wrapped (cs : List Char) :
    alternatives {} none .empty ('^' :: '(' :: '?' :: ':' :: cs) =
      (alternatives {} none .empty cs).bind fun p =>
        afterGroup {} none (.place .caret) none [] p.1.1 p.1.2 p.2 := by
  have hcaret : afterPart {} none .empty (.place .caret) ('(' :: '?' :: ':' :: cs) =
      alternatives {} none (.place .caret) ('(' :: '?' :: ':' :: cs) := by
    rw [afterPart, repetitions_eq]
    simp [skip, isMark, Pattern.push]
  have hopening : opening? {} ('?' :: ':' :: cs) = some ((.group none [], {}), cs) := by
    rw [opening?_eq]
    simp [skip, marked, readFlags?, flagged, isVerbose]
  have hgroup : alternatives {} none (.place .caret) ('(' :: '?' :: ':' :: cs) =
      afterOpening {} none (.place .caret) (.group none [], {}) cs := by
    rw [alternatives_eq]
    simp [skip, hopening]
  rw [alternatives_eq]
  simp only [skip, Bool.false_eq_true, if_false, readAtom?_eq]
  simp [plainAtom?, hcaret, hgroup, afterOpening]

theorem alternatives_nil (scope : Scope) (earlier : Option Pattern) (front : Pattern) :
    alternatives scope earlier front [] = some ((orElse earlier front, scope), []) := by
  rw [alternatives_eq]
  cases hverbose : scope.verbose <;> simp [skip, skipLayout]

/-- After the literal stand the end of a group and the end of the text. -/
theorem afterGroup_end (body : Pattern) (inner : Scope) :
    ∃ last, afterGroup {} none (.place .caret) none [] body inner [')', '$'] =
      some ((body.whole, last), []) := by
  have hgroup : repetitions false (.group none [] body) ['$'] =
      some (.group none [] body, ['$']) := by
    rw [repetitions_eq]
    simp [skip, isMark]
  have hdollar : repetitions false (.place .dollar) [] = some (.place .dollar, []) := by
    rw [repetitions_eq]
    rfl
  refine ⟨{ inner with verbose := false }, ?_⟩
  rw [afterGroup, afterPart, hgroup, Option.bind_some, alternatives_eq]
  simp [skip, readAtom?_eq, plainAtom?, afterPart, hdollar, alternatives_nil, Pattern.push, orElse,
    whole]

theorem isPlain_dollar : IsPlain ['$'] where
  line := by decide
  colon := by decide

/-- **The wrapped literal is the pattern of the literal between the start and the end of a text**,
unless the literal is no pattern or ends in a comment. -/
theorem parse?_wrapped {text : String} (hclose : ¬ClosesEarly text) {pattern : Pattern} :
    parse? ("^(?:" ++ text ++ ")$") = some pattern ↔
      ¬EndsInComment text ∧ ∃ body, parse? text = some body ∧ pattern = body.whole := by
  have hwrapped : ("^(?:" ++ text ++ ")$").toList =
      '^' :: '(' :: '?' :: ':' :: (text.toList ++ ')' :: ['$']) := by
    simp [String.toList_append]
  have hending : (text ++ ")$").toList = text.toList ++ ')' :: ['$'] := by
    simp [String.toList_append]
  rw [closesEarly_iff] at hclose
  have hfollowed := followed_alternatives isPlain_dollar {} none .empty text.toList
  rw [EndsInComment]
  simp only [parse?_eq_some, hwrapped, alternatives_wrapped, hending, Option.isSome_iff_exists]
  generalize alternatives {} none .empty text.toList = alone at hfollowed hclose
  generalize hended : alternatives {} none .empty (text.toList ++ ')' :: ['$']) = ended at hfollowed
  cases hfollowed with
  | kept p rest =>
    obtain rfl : rest = [] := by
      by_contra hrest
      exact hclose ⟨p, rest, rfl, hrest⟩
    obtain ⟨last, hend⟩ := afterGroup_end p.1 p.2
    simp only [List.nil_append, Option.bind_some, hend]
    constructor
    · rintro ⟨last', h⟩
      cases h
      refine ⟨?_, p.1, ⟨p.2, rfl⟩, rfl⟩
      rintro ⟨-, _, _, h⟩
      cases h
    · rintro ⟨-, body, ⟨last', h⟩, rfl⟩
      cases h
      exact ⟨last, rfl⟩
  | swallowed p =>
    constructor
    · rintro ⟨last, h⟩
      cases h
    · rintro ⟨hopen, -⟩
      exact absurd ⟨⟨p.1, p.2, rfl⟩, p.1, p.2, rfl⟩ hopen
  | beyond hleaves =>
    constructor
    · rintro ⟨last, h⟩
      obtain ⟨⟨p, rest⟩, hp, h⟩ := Option.bind_eq_some_iff.1 h
      have hreading := isReading_pattern (hended.trans hp)
      -- What is left is an end of the dollar sign, and starts with a parenthesis if at all.
      obtain rfl : rest = [] := by
        rcases List.suffix_cons_iff.1 (hleaves p rest hp) with rfl | hnil
        · exact absurd (hreading.stops '$' rfl) (by decide)
        · exact List.suffix_nil.1 hnil
      cases h
    · rintro ⟨-, body, ⟨last, h⟩, -⟩
      cases h

theorem ordered_of_parse? {text : String} {pattern : Pattern} (h : parse? text = some pattern) :
    pattern.Ordered := by
  obtain ⟨last, h⟩ := parse?_eq_some.1 h
  exact (isReading_pattern h).ordered

theorem depth_whole (pattern : Pattern) :
    pattern.whole.depth false false = pattern.depth false false + 2 := by
  simp [whole, depth]

end Pattern

/-! ### The expression of the wrapped literal -/

namespace Regex

/-- A regular expression between the start and the end of a text. -/
def whole (regex : Regex) : Regex :=
  .seq (.seq (.anchor .textStart) (.group none regex)) (.anchor .textEnd)

/-- A text spells a regular expression by itself, and the limits of depth and of size leave room for
what is put around it. -/
structure IsSpelledBy (regex : Regex) (text : String) : Prop where
  spelled : (Pattern.parse? text).bind Pattern.meaning? = some regex
  shallow : ∀ pattern ∈ Pattern.parse? text, pattern.depth false false + 2 ≤ depthLimit
  fits : regex.whole.fits = true

/-- Where no limit stands in the way, a text spells what it compiles to. -/
theorem isSpelledBy_iff {regex : Regex} {text : String} (hfits : regex.fits = true)
    (hwhole : regex.whole.fits = true)
    (hshallow : ∀ pattern ∈ Pattern.parse? text, pattern.depth false false + 2 ≤ depthLimit) :
    regex.IsSpelledBy text ↔ compile? text = some regex := by
  simp only [compile?, Option.bind_eq_bind, Option.bind_eq_some_iff, Option.guard_eq_some',
    Option.pure_def, Option.some.injEq]
  constructor
  · intro h
    obtain ⟨pattern, hpattern, hregex⟩ := Option.bind_eq_some_iff.1 h.spelled
    have hdepth := hshallow pattern hpattern
    exact ⟨pattern, hpattern, (), by omega, regex, hregex, (), hfits, rfl⟩
  · rintro ⟨pattern, hpattern, -, -, _, hregex, -, -, rfl⟩
    refine ⟨?_, hshallow, hwhole⟩
    rw [hpattern]
    exact hregex

/-- A regular expression matches a text from its start to its end. -/
def MatchesWhole (regex : Regex) (text : String) : Prop :=
  regex.Matches text.toList.toArray 0 text.toList.toArray.size

theorem meaning?_whole (pattern : Pattern) :
    pattern.whole.meaning? = pattern.meaning?.map whole := by
  have hchange : Flags.change {} [] = {} := rfl
  cases h : pattern.regex? {} with
  | none => simp [Pattern.meaning?, Pattern.whole, Pattern.regex?, hchange, h]
  | some p =>
    simp [Pattern.meaning?, Pattern.whole, Pattern.regex?, hchange, h, whole, Flags.anchor]

/-- A wrapped literal compiles to what the literal spells, between the start and the end of a
text. -/
theorem compileWhole?_eq_some {text : String} (hclose : ¬Pattern.ClosesEarly text)
    {wrapped : Regex} :
    compileWhole? text = some wrapped ↔
      ¬Pattern.EndsInComment text ∧ ∃ regex, IsSpelledBy regex text ∧ wrapped = regex.whole := by
  simp only [compileWhole?, compile?, Option.bind_eq_bind, Option.bind_eq_some_iff,
    Option.guard_eq_some', Option.pure_def, Pattern.parse?_wrapped hclose]
  constructor
  · rintro ⟨_, ⟨hopen, body, hbody, rfl⟩, -, hdepth, regex', hmeaning, -, hfits, hwrapped⟩
    rw [meaning?_whole] at hmeaning
    obtain ⟨regex, hregex, rfl⟩ := Option.map_eq_some_iff.1 hmeaning
    cases hwrapped
    refine ⟨hopen, regex, ⟨?_, ?_, hfits⟩, rfl⟩
    · rw [hbody]
      exact hregex
    · rintro pattern hpattern
      cases hbody.symm.trans hpattern
      rwa [← Pattern.depth_whole]
  · rintro ⟨hopen, regex, hspelled, rfl⟩
    obtain ⟨body, hbody, hregex⟩ := Option.bind_eq_some_iff.1 hspelled.spelled
    refine ⟨body.whole, ⟨hopen, body, hbody, rfl⟩, (), ?_, regex.whole, ?_, (), hspelled.fits, rfl⟩
    · rw [Pattern.depth_whole]
      exact hspelled.shallow body hbody
    · rw [meaning?_whole, hregex]
      rfl

theorem IsSpelledBy.ordered {regex : Regex} {text : String} (h : regex.IsSpelledBy text) :
    regex.Ordered := by
  obtain ⟨pattern, hpattern, hregex⟩ := Option.bind_eq_some_iff.1 h.spelled
  exact (Pattern.ordered_of_parse? hpattern).of_meaning? hregex

/-- **The wrapped expression is found in a text if the expression matches all of it.** -/
theorem isMatch_whole {regex : Regex} (h : regex.Ordered) (text : String) :
    regex.whole.isMatch text = true ↔ regex.MatchesWhole text := by
  have hordered : regex.whole.Ordered := ⟨⟨trivial, h⟩, trivial⟩
  rw [isMatch_iff hordered, MatchesWhole]
  simp only [whole, Matches, Anchor.holds, decide_eq_true_eq]
  constructor
  · rintro ⟨i, -, j, k, ⟨m, ⟨rfl, rfl⟩, hmatch⟩, rfl, rfl⟩
    exact hmatch
  · intro hmatch
    exact ⟨0, Nat.zero_le _, _, _, ⟨0, ⟨rfl, rfl⟩, hmatch⟩, rfl, rfl⟩

end Regex

/-! ### The values of the match operators -/

namespace AxisLookup

variable {store : Store} {axis : String} {property : PropertyChain}

/-- A test applies to what the same lookup gives without it. -/
theorem values_tested {column : Column}
    (h : (AxisLookup.mk property none false).values store axis = .ok column) (test : PropertyTest) :
    (AxisLookup.mk property (some test) false).values store axis =
      (test.outcomes store axis property column).map Column.bool := by
  simp only [AxisLookup.values, AxisLookup.valuesFrom, bind_eq_ok] at h
  obtain ⟨first, hfirst, last, hlast, hcolumn⟩ := h
  cases hcolumn
  simp only [AxisLookup.values, AxisLookup.valuesFrom, hfirst, hlast, ok_bind]
  rfl

/-- The outcomes of a match with a regular expression. -/
theorem outcomes_pattern {comparison : Comparison} (hpattern : comparison.isPattern = true)
    (literal : String) (texts : List String) :
    (PropertyTest.mk comparison literal).outcomes store axis property (.string texts) =
      (store.require (.invalidPattern literal property axis)
        (Regex.compileWhole? literal)).map fun regex =>
          texts.map fun text => regex.isMatch text == (comparison = .like) := by
  simp only [PropertyTest.outcomes, hpattern, if_true]
  cases Regex.compileWhole? literal <;> rfl

/-- **A match operator tests whole values.** It fails on a literal that spells no regular
expression, and otherwise tells the values that the literal matches from their start to their end,
if no parenthesis of the literal closes early. -/
theorem values_matched {texts : List String} {literal : String}
    (htexts : (AxisLookup.mk property none false).values store axis = .ok (.string texts))
    (hclose : ¬Pattern.ClosesEarly literal) :
    ((Pattern.EndsInComment literal ∨ ∀ regex : Regex, ¬regex.IsSpelledBy literal) →
      ∀ comparison : Comparison, comparison.isPattern = true →
        (AxisLookup.mk property (some ⟨comparison, literal⟩) false).values store axis =
          .error ⟨store.name, .invalidPattern literal property axis⟩) ∧
    (¬Pattern.EndsInComment literal → ∀ regex : Regex, regex.IsSpelledBy literal →
      ∃ kept others,
        (AxisLookup.mk property (some ⟨.like, literal⟩) false).values store axis =
            .ok (.bool kept) ∧
        (AxisLookup.mk property (some ⟨.unlike, literal⟩) false).values store axis =
            .ok (.bool others) ∧
        List.Forall₂ (fun text bit => bit = true ↔ regex.MatchesWhole text) texts kept ∧
        List.Forall₂ (fun text bit => bit = true ↔ ¬regex.MatchesWhole text) texts others) := by
  constructor
  · intro hinvalid comparison hpattern
    have hnone : Regex.compileWhole? literal = none := by
      rw [Option.eq_none_iff_forall_ne_some]
      intro wrapped hwrapped
      obtain ⟨hopen, regex, hregex, -⟩ := (Regex.compileWhole?_eq_some hclose).1 hwrapped
      exact hinvalid.elim hopen fun hnone => hnone regex hregex
    rw [values_tested htexts, outcomes_pattern hpattern, hnone]
    rfl
  · intro hopen regex hregex
    have hsome : Regex.compileWhole? literal = some regex.whole :=
      (Regex.compileWhole?_eq_some hclose).2 ⟨hopen, regex, hregex, rfl⟩
    have hmatch := Regex.isMatch_whole hregex.ordered
    refine ⟨texts.map fun text => regex.whole.isMatch text == true,
      texts.map fun text => regex.whole.isMatch text == false, ?_, ?_, ?_, ?_⟩
    · rw [values_tested htexts, outcomes_pattern rfl, hsome]
      rfl
    · rw [values_tested htexts, outcomes_pattern rfl, hsome]
      rfl
    · simp [List.forall₂_map_right_iff, List.forall₂_same, hmatch]
    · simp [List.forall₂_map_right_iff, List.forall₂_same, ← hmatch]

/-- A literal with two alternatives. Both are within the group that is put around the literal, so a
value that only starts or ends with one of them does not match. -/
theorem values_matched_alternatives : ∃ (store : Store) (literal : String) (regex : Regex),
    store.Reachable ∧
      (AxisLookup.mk ⟨"kind", []⟩ none false).values store "gene" =
        .ok (.string ["ab", "abc", "c"]) ∧
      ¬Pattern.ClosesEarly literal ∧ ¬Pattern.EndsInComment literal ∧
      regex.IsSpelledBy literal ∧
      ∃ kept others,
        (AxisLookup.mk ⟨"kind", []⟩ (some ⟨.like, literal⟩) false).values store "gene" =
            .ok (.bool kept) ∧
        (AxisLookup.mk ⟨"kind", []⟩ (some ⟨.unlike, literal⟩) false).values store "gene" =
            .ok (.bool others) ∧
        List.Forall₂ (fun text bit => bit = true ↔ regex.MatchesWhole text) ["ab", "abc", "c"]
          kept ∧
        List.Forall₂ (fun text bit => bit = true ↔ ¬regex.MatchesWhole text) ["ab", "abc", "c"]
          others := by
  let store : Store := (Store.empty "data").run [.addAxis "gene" ["A", "B", "C"],
    .setVector "gene" "kind" (.string ["ab", "abc", "c"])]
  have hreachable : store.Reachable := (Store.Reachable.empty "data").run (by decide)
  have htexts : ((AxisLookup.mk ⟨"kind", []⟩ none false).values store "gene").toOption =
      some (.string ["ab", "abc", "c"]) := by
    decide +kernel
  rw [toOption_eq_some] at htexts
  have hclose : ¬Pattern.ClosesEarly "ab|c" := Pattern.not_closesEarly (by decide +kernel)
  have hopen : ¬Pattern.EndsInComment "ab|c" := by
    unfold Pattern.EndsInComment
    decide +kernel
  have hspelled : Regex.IsSpelledBy
      (.alt (.seq (.char (.single 'a')) (.char (.single 'b'))) (.char (.single 'c'))) "ab|c" :=
    ⟨by decide +kernel, by decide +kernel, by decide +kernel⟩
  exact ⟨store, "ab|c", _, hreachable, htexts, hclose, hopen, hspelled,
    (values_matched htexts hclose).2 hopen _ hspelled⟩

/-- A literal whose first parenthesis closes the group that is put around it. By itself it is no
regular expression, but the wrapped literal is one, and matches what starts or ends as it says. -/
theorem values_closed_early : ∃ (store : Store) (lookup : AxisLookup),
    store.Reachable ∧
      VectorQuery.parse .builtin "gene & kind ~ a\\)\\|\\(b @ name" =
        .ok (.lookup (.vector ⟨"gene", [⟨.and, lookup⟩]⟩ ⟨⟨"name", []⟩, none, false⟩) []) ∧
      lookup.test = some ⟨.like, "a)|(b"⟩ ∧
      Regex.compile? "a)|(b" = none ∧
      lookup.values store "gene" = .ok (.bool [true, true]) := by
  let store : Store := (Store.empty "data").run [.addAxis "gene" ["A", "B"],
    .setVector "gene" "kind" (.string ["a", "xb"])]
  let lookup : AxisLookup := ⟨⟨"kind", []⟩, some ⟨.like, "a)|(b"⟩, false⟩
  have hreachable : store.Reachable := (Store.Reachable.empty "data").run (by decide)
  have hparse : (VectorQuery.parse .builtin "gene & kind ~ a\\)\\|\\(b @ name").toOption =
      some (.lookup (.vector ⟨"gene", [⟨.and, lookup⟩]⟩ ⟨⟨"name", []⟩, none, false⟩) []) := by
    decide +kernel
  have hvalues : (lookup.values store "gene").toOption = some (.bool [true, true]) := by
    decide +kernel
  rw [toOption_eq_some] at hparse hvalues
  exact ⟨store, lookup, hreachable, hparse, rfl, by decide +kernel, hvalues⟩

end AxisLookup

end Axial
