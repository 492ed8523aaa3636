import Mathlib.Data.List.Infix
import Axial.Proofs.PatternReading

/-!
# What the readers of patterns leave

A reader of patterns takes characters from the start of a text, so what it leaves is an end of the
text. This bounds what it may still read, and shows that going on with the rest comes to an end.

* `Pattern.Leaves` : what is left of a text is an end of it.
* `Pattern.leaves_alternatives` : this holds of the reader of patterns, and of all that it calls.
-/

namespace Axial

namespace Pattern

variable {verbose : Bool} {cs rest : List Char}

/-! ### Ends of a text -/

/-- What is left of a text is an end of it. -/
def Leaves {α : Type} (cs : List Char) (x : Option (α × List Char)) : Prop :=
  ∀ a rest, x = some (a, rest) → rest <:+ cs

section Leaves

variable {α β γ : Type} {x : Option (α × List Char)}

theorem leaves_none : Leaves cs (none : Option (α × List Char)) :=
  nofun

theorem leaves_some {a : α} (h : rest <:+ cs) : Leaves cs (some (a, rest)) := by
  rintro _ _ ⟨⟩
  exact h

theorem leaves_map (a? : Option β) {f : β → α × List Char} (h : ∀ b, (f b).2 <:+ cs) :
    Leaves cs (a?.map f) := by
  intro a rest hrest
  obtain ⟨b, _, hb⟩ := Option.map_eq_some_iff.1 hrest
  have := h b
  rwa [hb] at this

theorem Leaves.mono {text : List Char} (h : cs <:+ text) (hx : Leaves cs x) : Leaves text x :=
  fun a rest hrest => (hx a rest hrest).trans h

theorem Leaves.bind (hx : Leaves cs x) {f : α × List Char → Option (β × List Char)}
    (hf : ∀ p, p.2 <:+ cs → Leaves p.2 (f p)) : Leaves cs (x.bind f) := by
  intro b rest h
  obtain ⟨p, hp, h⟩ := Option.bind_eq_some_iff.1 h
  have hbetween := hx p.1 p.2 hp
  exact (hf p hbetween b rest h).trans hbetween

theorem Leaves.map (hx : Leaves cs x) {f : α × List Char → β × List Char}
    (hf : ∀ p, (f p).2 = p.2) : Leaves cs (x.map f) := by
  intro b rest h
  obtain ⟨p, hp, h⟩ := Option.map_eq_some_iff.1 h
  have hrest : p.2 = rest := (hf p).symm.trans (congrArg Prod.snd h)
  exact hrest ▸ hx p.1 p.2 hp

theorem Leaves.filterMap (hx : Leaves cs x) {f : α × List Char → Option β}
    {g : α × List Char → β → γ × List Char} (hg : ∀ p b, (g p b).2 = p.2) :
    Leaves cs (x.bind fun p => (f p).map (g p)) :=
  hx.bind fun p _ => leaves_map (f p) fun b => (hg p b).symm ▸ List.suffix_rfl

end Leaves

/-! ### Blanks and escapes -/

theorem suffix_tail {s t : List Char} (h : s <:+ t) : s.tail <:+ t.tail := by
  obtain ⟨front, rfl⟩ := h
  cases front with
  | nil => exact List.suffix_rfl
  | cons c front => exact (List.tail_suffix s).trans (List.suffix_append front s)

theorem suffix_skipLayout (inComment : Bool) (cs : List Char) : skipLayout inComment cs <:+ cs := by
  fun_induction skipLayout inComment cs with
  | case1 | case5 => exact List.suffix_rfl
  | case2 c cs ih => exact ih.trans (List.suffix_cons c cs)
  | case3 _ cs _ ih => exact ih.trans (List.suffix_cons _ cs)
  | case4 _ c cs _ _ _ ih => exact ih.trans (List.suffix_cons c cs)

theorem suffix_skip (verbose : Bool) (cs : List Char) : skip verbose cs <:+ cs := by
  unfold skip
  split
  · exact suffix_skipLayout false cs
  · exact List.suffix_rfl

theorem suffix_of_skip {c : Char} (h : skip verbose cs = c :: rest) : rest <:+ cs :=
  (List.suffix_cons c rest).trans (h ▸ suffix_skip verbose cs)

theorem length_of_skip {c : Char} (h : skip verbose cs = c :: rest) : rest.length < cs.length := by
  have hlength := length_skip verbose cs
  rw [h, List.length_cons] at hlength
  omega

theorem leaves_braced (verbose : Bool) (cs : List Char) : Leaves cs (braced verbose cs) := by
  rw [braced_eq]
  split
  · exact leaves_none
  · next c more h =>
    split
    · exact leaves_some (suffix_of_skip h)
    · exact .mono (suffix_of_skip h) ((leaves_braced verbose more).map fun _ => rfl)
termination_by cs.length
decreasing_by exact length_of_skip ‹_›

theorem leaves_readFixed? (verbose : Bool) (n : Nat) (cs : List Char) :
    Leaves cs (readFixed? verbose n cs) := by
  fun_induction readFixed? verbose n cs with
  | case1 => exact leaves_some List.suffix_rfl
  | case2 => exact leaves_none
  | case3 n c cs ih =>
    exact .mono ((suffix_skip verbose cs).trans (List.suffix_cons c cs)) (ih.map fun _ => rfl)

theorem leaves_readHex? (verbose : Bool) (count : Nat) (cs : List Char) :
    Leaves cs (readHex? verbose count cs) := by
  rw [readHex?_eq]
  split
  · exact leaves_none
  · next c more h =>
    split
    · exact .mono (suffix_of_skip h) ((leaves_braced verbose more).filterMap fun _ _ => rfl)
    · exact .mono (h ▸ suffix_skip verbose cs)
        ((leaves_readFixed? verbose count (c :: more)).filterMap fun _ _ => rfl)

theorem leaves_readProperty? (verbose negated : Bool) (cs : List Char) :
    Leaves cs (readProperty? verbose negated cs) := by
  rw [readProperty?_eq]
  split
  · exact leaves_none
  · next c more h =>
    split
    · exact .mono (suffix_of_skip h) ((leaves_braced verbose more).filterMap fun _ _ => rfl)
    · exact leaves_map _ fun _ => suffix_of_skip h

theorem leaves_readBoundary? (verbose : Bool) (cs : List Char) :
    Leaves cs (readBoundary? verbose cs) := by
  rw [readBoundary?_eq]
  split
  · exact leaves_some List.suffix_rfl
  · next c more =>
    split
    · exact .mono (List.suffix_cons c more) ((leaves_braced verbose more).filterMap fun _ _ => rfl)
    · exact leaves_some List.suffix_rfl

theorem leaves_readEscape? (verbose : Bool) (cs : List Char) :
    Leaves cs (readEscape? verbose cs) := by
  unfold readEscape?
  split
  · exact leaves_none
  · next c more =>
    have hmore := List.suffix_cons c more
    split
    · exact .mono hmore ((leaves_readHex? verbose 2 more).map fun _ => rfl)
    · exact .mono hmore ((leaves_readHex? verbose 4 more).map fun _ => rfl)
    · exact .mono hmore ((leaves_readHex? verbose 8 more).map fun _ => rfl)
    · exact .mono hmore ((leaves_readProperty? verbose false more).map fun _ => rfl)
    · exact .mono hmore ((leaves_readProperty? verbose true more).map fun _ => rfl)
    · exact .mono hmore ((leaves_readBoundary? verbose more).map fun _ => rfl)
    · exact leaves_map _ fun _ => hmore

/-! ### Classes -/

theorem leaves_readItem? (verbose : Bool) (c : Char) (cs : List Char) :
    Leaves cs (readItem? verbose (c :: cs)) := by
  by_cases hc : c = '\\'
  · subst hc
    rw [readItem?_escape]
    exact (leaves_readEscape? verbose cs).filterMap fun _ _ => rfl
  · rw [readItem?_letter hc]
    exact leaves_some List.suffix_rfl

theorem leaves_rangeAfter (verbose : Bool) (first : Item) (cs : List Char) :
    Leaves cs (rangeAfter verbose first cs) := by
  unfold rangeAfter
  split
  · exact leaves_none
  · next c more h =>
    split
    · cases hs : skip verbose more with
      | nil => exact leaves_none
      | cons d last =>
        exact .mono ((suffix_of_skip hs).trans (suffix_of_skip h))
          ((leaves_readItem? verbose d last).filterMap fun _ _ => rfl)
    · exact leaves_some (h ▸ suffix_skip verbose cs)

theorem leaves_readRange? (verbose : Bool) (c : Char) (cs : List Char) :
    Leaves cs (readRange? verbose (c :: cs)) := by
  rw [readRange?_eq]
  exact (leaves_readItem? verbose c cs).bind fun p _ => leaves_rangeAfter verbose p.1 p.2

theorem suffix_readHyphens (verbose : Bool) (sofar : ClassSet) (cs : List Char) :
    (readHyphens verbose sofar cs).2 <:+ cs := by
  fun_induction readHyphens verbose sofar cs with
  | case1 => exact List.suffix_rfl
  | case2 _ cs ih => exact (ih.trans (suffix_skip verbose cs)).trans (List.suffix_cons _ cs)
  | case3 => exact List.suffix_rfl

theorem suffix_openingAfter (verbose negated : Bool) (cs : List Char) :
    (openingAfter verbose negated cs).2 <:+ cs := by
  unfold openingAfter
  split
  · exact List.suffix_rfl
  · next c more =>
    split
    · exact List.suffix_cons c more
    · exact suffix_readHyphens verbose .empty (c :: more)

theorem suffix_openedAfter (verbose : Bool) (cs : List Char) :
    (openedAfter verbose cs).2 <:+ cs := by
  unfold openedAfter
  split
  · exact suffix_openingAfter verbose false []
  · next c more =>
    split
    · exact (suffix_openingAfter verbose true _).trans
        ((suffix_skip verbose more).trans (List.suffix_cons c more))
    · exact suffix_openingAfter verbose false (c :: more)

theorem suffix_opened (verbose : Bool) (cs : List Char) : (opened verbose cs).2 <:+ cs := by
  rw [opened_eq]
  exact (suffix_openedAfter verbose _).trans (suffix_skip verbose cs)

theorem leaves_posixAfter (negated : Bool) (cs : List Char) :
    Leaves cs (posixAfter negated cs) := by
  unfold posixAfter
  split
  · next rest h =>
    have hdrop := List.dropWhile_suffix (l := cs) (· ≠ ':')
    rw [h] at hdrop
    exact leaves_map _ fun _ =>
      ((List.suffix_cons ']' rest).trans (List.suffix_cons ':' _)).trans hdrop
  · exact leaves_none

theorem leaves_readPosix? (cs : List Char) : Leaves cs (readPosix? cs) := by
  rw [readPosix?_eq]
  split
  · exact leaves_none
  · next c more =>
    have hmore := List.suffix_cons c more
    split
    · split
      · exact .mono ((List.tail_suffix more).trans hmore) (leaves_posixAfter true more.tail)
      · exact .mono hmore (leaves_posixAfter false more)
    · exact leaves_none

theorem leaves_operation? (c : Char) (cs : List Char) : Leaves cs (operation? (c :: cs)) := by
  cases cs with
  | nil => exact leaves_none
  | cons d more =>
    rw [operation?]
    split
    · exact leaves_map _ fun _ => List.suffix_cons d more
    · exact leaves_none

/-- A class within a class leaves an end of the text if all items do that may stand there. -/
theorem leaves_bracket? (verbose : Bool) (cs : List Char)
    (h : ∀ sofar text, text.length ≤ cs.length → Leaves text (items verbose sofar none text)) :
    Leaves cs (bracket? verbose cs) := by
  have hopened := suffix_opened verbose cs
  exact .mono hopened ((h _ _ hopened.length_le).map fun _ => rfl)

theorem leaves_items (verbose : Bool) (sofar : ClassSet) (pending : Pending) (cs : List Char) :
    Leaves cs.tail (items verbose sofar pending cs) := by
  have leaves : ∀ sofar pending text, text.length < cs.length →
      Leaves text (items verbose sofar pending text) := fun sofar pending text _ =>
    .mono (List.tail_suffix text) (leaves_items verbose sofar pending text)
  rw [items_eq]
  split
  · exact leaves_none
  · next c more h =>
    have hlength := length_of_skip h
    have hmore : more <:+ cs.tail := suffix_tail (s := c :: more) (h ▸ suffix_skip verbose cs)
    split
    · exact leaves_some hmore
    · refine .mono hmore ?_
      split
      · next operation after ho =>
        have hafter := leaves_operation? c more _ _ ho
        exact .mono hafter (leaves _ _ after (Nat.lt_of_le_of_lt hafter.length_le hlength))
      · split
        · split
          · next set after hp =>
            have hafter := leaves_readPosix? more _ _ hp
            exact .mono hafter (leaves _ _ after (Nat.lt_of_le_of_lt hafter.length_le hlength))
          · refine (leaves_bracket? verbose more fun sofar text htext => ?_).bind fun p hrest => ?_
            · exact leaves _ _ text (Nat.lt_of_le_of_lt htext hlength)
            · exact leaves _ _ p.2 (Nat.lt_of_le_of_lt hrest.length_le hlength)
        · refine (leaves_readRange? verbose c more).bind fun p hrest => ?_
          exact leaves _ _ p.2 (Nat.lt_of_le_of_lt hrest.length_le hlength)
termination_by cs.length

/-! ### Repetitions -/

theorem suffix_takeDigits (verbose : Bool) (digits cs : List Char) :
    (takeDigits verbose digits cs).2 <:+ cs := by
  fun_induction takeDigits verbose digits cs with
  | case1 => exact List.suffix_rfl
  | case2 _ c cs _ ih => exact (ih.trans (suffix_skip verbose cs)).trans (List.suffix_cons c cs)
  | case3 => exact List.suffix_rfl

theorem leaves_readCount? (verbose : Bool) (cs : List Char) :
    Leaves cs (readCount? verbose cs) := by
  intro n rest h
  obtain ⟨n, -, h⟩ := Option.bind_eq_some_iff.1 h
  obtain ⟨-, h⟩ := Option.ite_none_right_eq_some.1 h
  cases h
  exact ((List.dropWhile_suffix _).trans (suffix_takeDigits verbose [] _)).trans
    (List.dropWhile_suffix _)

theorem leaves_mostAfter (verbose : Bool) (least : Nat) (cs : List Char) :
    Leaves cs (mostAfter verbose least cs) := by
  unfold mostAfter
  split
  · exact leaves_none
  · next c more h =>
    split
    · exact leaves_some (suffix_of_skip h)
    · refine .mono (h ▸ suffix_skip verbose cs) ?_
      refine (leaves_readCount? verbose (c :: more)).bind fun p _ => ?_
      split
      · exact leaves_none
      · next d after hafter =>
        rw [hafter]
        split
        · exact leaves_some (List.suffix_cons d after)
        · exact leaves_none

theorem leaves_boundsAfter (verbose : Bool) (least : Nat) (cs : List Char) :
    Leaves cs (boundsAfter verbose least cs) := by
  cases cs with
  | nil => exact leaves_none
  | cons c more =>
    have hmore := List.suffix_cons c more
    rw [boundsAfter]
    split
    · exact leaves_some hmore
    · split
      · exact .mono hmore (leaves_mostAfter verbose least more)
      · exact leaves_none

theorem leaves_readMark? (verbose : Bool) (mark : Char) (cs : List Char) :
    Leaves cs (readMark? verbose mark cs) := by
  by_cases hmark : mark ≠ '*' ∧ mark ≠ '+' ∧ mark ≠ '?'
  · rw [readMark?_brace hmark]
    intro bounds rest h
    obtain ⟨p, hp, h⟩ := Option.map_eq_some_iff.1 h
    cases h
    have hbounds := (leaves_readCount? verbose (skip verbose cs)).bind fun p _ =>
      leaves_boundsAfter verbose p.1 p.2
    exact (suffix_skip verbose p.2).trans ((hbounds _ _ hp).trans (suffix_skip verbose cs))
  · unfold readMark?
    split
    · exact leaves_some List.suffix_rfl
    · split
      · exact leaves_some List.suffix_rfl
      · split
        · exact leaves_some List.suffix_rfl
        · exact absurd ⟨‹_›, ‹_›, ‹_›⟩ hmark

theorem suffix_readGreed (cs : List Char) : (readGreed cs).2 <:+ cs := by
  unfold readGreed
  split
  · exact List.suffix_cons _ _
  · exact List.suffix_rfl

theorem leaves_repetitions (verbose : Bool) (body : Pattern) (cs : List Char) :
    Leaves cs (repetitions verbose body cs) := by
  rw [repetitions_eq]
  split
  · exact leaves_some (List.nil_suffix)
  · next c more h =>
    have hlength := length_of_skip h
    split
    · refine .mono (suffix_of_skip h) ?_
      refine (leaves_readMark? verbose c more).bind fun p hp => ?_
      have hgreed := suffix_readGreed p.2
      have := hgreed.length_le
      have := hp.length_le
      exact .mono hgreed (leaves_repetitions verbose _ (readGreed p.2).2)
    · exact leaves_some (h ▸ suffix_skip verbose cs)
termination_by cs.length
decreasing_by omega

/-! ### Groups -/

theorem leaves_readName? (scope : Scope) (cs : List Char) : Leaves cs (readName? scope cs) := by
  have hdrop := List.dropWhile_suffix (l := cs) continuesName
  unfold readName?
  dsimp only
  split
  · next rest h =>
    rw [h] at hdrop
    split
    · exact leaves_some ((List.suffix_cons _ rest).trans hdrop)
    · exact leaves_none
  · exact leaves_none

theorem leaves_named (scope : Scope) (cs : List Char) : Leaves cs (named scope cs) :=
  (leaves_readName? scope cs).map fun _ => rfl

theorem leaves_readFlags? (seen : List Char) (value : Bool) (cs : List Char) :
    Leaves cs (readFlags? seen value cs) := by
  induction cs generalizing seen value with
  | nil => exact leaves_none
  | cons c cs ih =>
    have hcs := List.suffix_cons c cs
    rw [readFlags?]
    split
    · split
      · exact leaves_none
      · exact leaves_some List.suffix_rfl
    · split
      · exact leaves_none
      · split
        · exact .mono hcs (ih _ _)
        · cases flag? c with
          | none => exact leaves_none
          | some flag => exact .mono hcs ((ih _ _).map fun _ => rfl)

theorem leaves_flagged (scope : Scope) (changes : FlagChanges) (cs : List Char) :
    Leaves cs.tail (flagged scope changes cs) := by
  cases cs with
  | nil => exact leaves_none
  | cons c more =>
    rw [flagged]
    split
    · exact leaves_some List.suffix_rfl
    · split
      · exact leaves_some List.suffix_rfl
      · exact leaves_none

theorem leaves_marked (scope : Scope) (cs : List Char) : Leaves cs (marked scope cs) := by
  cases cs with
  | nil => exact leaves_none
  | cons c more =>
    have hmore := List.suffix_cons c more
    rw [marked]
    split
    · exact leaves_none
    · split
      · split
        · exact leaves_none
        · exact .mono hmore (leaves_named scope more)
      · split
        · exact .mono ((List.tail_suffix more).trans hmore) (leaves_named scope more.tail)
        · exact (leaves_readFlags? [] true (c :: more)).bind fun p _ =>
            .mono (List.tail_suffix p.2) (leaves_flagged scope p.1 p.2)

theorem leaves_opening? (scope : Scope) (cs : List Char) : Leaves cs (opening? scope cs) := by
  rw [opening?_eq]
  split
  · exact leaves_some List.nil_suffix
  · next c more h =>
    split
    · exact .mono (suffix_of_skip h) (leaves_marked scope more)
    · exact leaves_some (h ▸ suffix_skip scope.verbose cs)

/-! ### Patterns -/

theorem leaves_readAtom? (verbose : Bool) (c : Char) (cs : List Char) :
    Leaves cs (readAtom? verbose (c :: cs)) := by
  rw [readAtom?_eq]
  split
  · refine (leaves_bracket? verbose cs fun sofar text _ => ?_).map fun _ => rfl
    exact .mono (List.tail_suffix text) (leaves_items verbose sofar none text)
  · split
    · exact (leaves_readEscape? verbose cs).map fun _ => rfl
    · exact leaves_map _ fun _ => List.suffix_rfl

/-- What follows a part leaves an end of the text if the patterns within the text do. -/
theorem leaves_afterPart_of (scope : Scope) (earlier : Option Pattern) (front part : Pattern)
    (cs : List Char)
    (h : ∀ front text, text.length ≤ cs.length →
      Leaves text (alternatives scope earlier front text)) :
    Leaves cs (afterPart scope earlier front part cs) :=
  (leaves_repetitions scope.verbose part cs).bind fun p hp => h _ p.2 hp.length_le

/-- What follows an opening leaves an end of the text if the patterns within the text do. -/
theorem leaves_afterOpening_of (scope : Scope) (earlier : Option Pattern) (front : Pattern)
    (opening : Opening × Scope) (cs : List Char)
    (h : ∀ scope earlier front text, text.length ≤ cs.length →
      Leaves text (alternatives scope earlier front text)) :
    Leaves cs (afterOpening scope earlier front opening cs) := by
  obtain ⟨opening, inner⟩ := opening
  cases opening with
  | flags changes => exact h _ _ _ cs (Nat.le_refl _)
  | group number changes =>
    refine (h inner none .empty cs (Nat.le_refl _)).bind fun p hp => ?_
    have := hp.length_le
    cases hrest : p.2 with
    | nil => exact leaves_none
    | cons c closed =>
      rw [hrest, List.length_cons] at this
      refine .mono (List.suffix_cons c closed)
        (leaves_afterPart_of _ _ _ _ _ fun front text htext => ?_)
      exact h _ _ _ text (by omega)

/-- The reader of patterns leaves an end of the text. -/
theorem leaves_alternatives (scope : Scope) (earlier : Option Pattern) (front : Pattern)
    (cs : List Char) : Leaves cs (alternatives scope earlier front cs) := by
  rw [alternatives_eq]
  split
  · exact leaves_some List.nil_suffix
  · next c more h =>
    have hmore := suffix_of_skip h
    have hlength := length_of_skip h
    split
    · exact leaves_some (h ▸ suffix_skip scope.verbose cs)
    · split
      · exact .mono hmore (leaves_alternatives _ _ _ more)
      · refine .mono hmore ?_
        split
        · refine (leaves_opening? scope more).bind fun p hp => ?_
          have := hp.length_le
          exact leaves_afterOpening_of _ _ _ _ _ fun scope earlier front text htext =>
            leaves_alternatives scope earlier front text
        · refine (leaves_readAtom? scope.verbose c more).bind fun p hp => ?_
          have := hp.length_le
          exact leaves_afterPart_of _ _ _ _ _ fun front text htext =>
            leaves_alternatives scope earlier front text
termination_by cs.length
decreasing_by all_goals omega

theorem leaves_afterPart (scope : Scope) (earlier : Option Pattern) (front part : Pattern)
    (cs : List Char) : Leaves cs (afterPart scope earlier front part cs) :=
  leaves_afterPart_of _ _ _ _ _ fun front text _ => leaves_alternatives scope earlier front text

theorem leaves_afterGroup (scope : Scope) (earlier : Option Pattern) (front : Pattern)
    (number : Option Nat) (changes : FlagChanges) (body : Pattern) (inner : Scope)
    (cs : List Char) :
    Leaves cs.tail (afterGroup scope earlier front number changes body inner cs) := by
  cases cs with
  | nil => exact leaves_none
  | cons c closed => exact leaves_afterPart _ _ _ _ closed

theorem leaves_afterOpening (scope : Scope) (earlier : Option Pattern) (front : Pattern)
    (opening : Opening × Scope) (cs : List Char) :
    Leaves cs (afterOpening scope earlier front opening cs) :=
  leaves_afterOpening_of _ _ _ _ _ fun scope earlier front text _ =>
    leaves_alternatives scope earlier front text

end Pattern

end Axial
