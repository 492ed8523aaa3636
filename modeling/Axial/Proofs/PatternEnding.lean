import Mathlib.Data.List.TakeWhile
import Axial.Proofs.GroupName
import Axial.Proofs.PatternRest

/-!
# Patterns with more after them

A text is read, and so is the same text with a closing parenthesis and more after it. The reader
makes the same of both as long as the end of the first is not reached. There it may stop, and stops
before the parenthesis in the second; or the text ends in a comment, which takes in all that comes
after; or the text is cut off within a part, and then the reader goes on beyond the parenthesis.

* `Pattern.Followed` : the three cases.
* `Pattern.followed_alternatives` : there are no others.
-/

namespace Axial

namespace Pattern

variable {cs more limit : List Char}

/-! ### A text and what follows it -/

/-- No comment ends after the closing parenthesis, and no class of ASCII does. -/
structure IsPlain (more : List Char) : Prop where
  line : '\n' ∉ more
  colon : ':' ∉ more

/-- What the same reader makes of a text and of the text with a closing parenthesis and more after
it. -/
inductive Followed {α : Type} (more limit : List Char) :
    Option (α × List Char) → Option (α × List Char) → Prop where
  /-- It stops before the parenthesis. -/
  | kept (a : α) (rest : List Char) :
    Followed more limit (some (a, rest)) (some (a, rest ++ ')' :: more))
  /-- The text ends in a comment, which goes on. -/
  | swallowed (a : α) : Followed more limit (some (a, [])) (some (a, []))
  /-- It fails without the parenthesis, and with it goes beyond. -/
  | beyond {y : Option (α × List Char)} (h : Leaves limit y) : Followed more limit none y

/-- What is left of a text, and what is left of the text with more after it. -/
inductive Goes (more : List Char) : List Char → List Char → Prop where
  | on (cs : List Char) : Goes more cs (cs ++ ')' :: more)
  | swallowed : Goes more [] []

section Followed

variable {α β γ : Type} {x y : Option (α × List Char)} {s t : List Char}

theorem followed_none : Followed more limit (none : Option (α × List Char)) none :=
  .beyond leaves_none

theorem Followed.mono {wider : List Char} (h : Followed more limit x y) (hlimit : limit <:+ wider) :
    Followed more wider x y := by
  cases h with
  | kept a rest => exact .kept a rest
  | swallowed a => exact .swallowed a
  | beyond h => exact .beyond (.mono hlimit h)

theorem Goes.followed (h : Goes more s t) (a : α) :
    Followed more limit (some (a, s)) (some (a, t)) := by
  cases h with
  | on => exact .kept a s
  | swallowed => exact .swallowed a

/-- A reader that stops at the end of a text stops there again. -/
theorem Followed.of_goes {f : List Char → Option (α × List Char)}
    (hf : Followed more limit (f s) (f (s ++ ')' :: more))) (hnil : Leaves [] (f []))
    (h : Goes more s t) : Followed more limit (f s) (f t) := by
  cases h with
  | on => exact hf
  | swallowed =>
    cases hx : f [] with
    | none => exact followed_none
    | some p =>
      obtain ⟨a, rest⟩ := p
      obtain rfl : rest = [] := List.suffix_nil.1 (hnil a rest hx)
      exact .swallowed a

theorem Followed.bind (h : Followed more limit x y) {f : α × List Char → Option (β × List Char)}
    (hf : ∀ a s t, x = some (a, s) → Goes more s t → Followed more limit (f (a, s)) (f (a, t)))
    (hleaves : ∀ p, Leaves p.2 (f p)) : Followed more limit (x.bind f) (y.bind f) := by
  cases h with
  | kept a rest => exact hf a _ _ rfl (.on rest)
  | swallowed a => exact hf a _ _ rfl .swallowed
  | beyond h => exact .beyond (h.bind fun p _ => hleaves p)

/-- A reader that takes at least one character goes beyond the parenthesis even if the one before
stops there. -/
theorem Followed.bind_tail (h : Followed more (')' :: more) x y)
    {f : α × List Char → Option (β × List Char)}
    (hf : ∀ a s t, x = some (a, s) → Goes more s t → Followed more more (f (a, s)) (f (a, t)))
    (hleaves : ∀ p, Leaves p.2.tail (f p)) : Followed more more (x.bind f) (y.bind f) := by
  cases h with
  | kept a rest => exact hf a _ _ rfl (.on rest)
  | swallowed a => exact hf a _ _ rfl .swallowed
  | beyond h =>
    refine .beyond fun b rest hrest => ?_
    obtain ⟨p, hp, hrest⟩ := Option.bind_eq_some_iff.1 hrest
    exact (hleaves p b rest hrest).trans (suffix_tail (h p.1 p.2 hp))

theorem Followed.map (h : Followed more limit x y) (f : α → β) :
    Followed more limit (x.map fun p => (f p.1, p.2)) (y.map fun p => (f p.1, p.2)) := by
  cases h with
  | kept a rest => exact .kept (f a) rest
  | swallowed a => exact .swallowed (f a)
  | beyond h => exact .beyond (h.map fun _ => rfl)

theorem followed_map (a? : Option α) (f : α → β) :
    Followed more limit (a?.map fun a => (f a, cs)) (a?.map fun a => (f a, cs ++ ')' :: more)) := by
  cases a? with
  | none => exact followed_none
  | some a => exact .kept (f a) cs

theorem Goes.followed_map (h : Goes more s t) (a? : Option α) (f : α → β) :
    Followed more limit (a?.map fun a => (f a, s)) (a?.map fun a => (f a, t)) := by
  cases a? with
  | none => exact followed_none
  | some a => exact h.followed (f a)

/-- What was read may be refused. -/
theorem Followed.filterMap (h : Followed more limit x y) (f : α → Option β) (g : β → γ) :
    Followed more limit (x.bind fun p => (f p.1).map fun b => (g b, p.2))
      (y.bind fun p => (f p.1).map fun b => (g b, p.2)) :=
  h.bind (fun a _ _ _ hgoes => hgoes.followed_map (f a) g)
    fun p => leaves_map (f p.1) fun _ => List.suffix_rfl

end Followed

/-! ### Blanks and comments -/

theorem isBlank_close : Text.isBlank ')' = false := by
  decide

theorem skipLayout_comment (hmore : '\n' ∉ more) : skipLayout true more = [] := by
  induction more with
  | nil => rfl
  | cons c more ih =>
    obtain ⟨hc, hmore⟩ := not_or.1 (List.mem_cons.not.1 hmore)
    simpa [skipLayout, Ne.symm hc] using ih hmore

theorem goes_skipLayout (h : IsPlain more) (inComment : Bool) (cs : List Char) :
    Goes more (skipLayout inComment cs) (skipLayout inComment (cs ++ ')' :: more)) := by
  induction cs generalizing inComment with
  | nil =>
    cases inComment with
    | true =>
      have hclose : skipLayout true (')' :: more) = [] := by
        simpa [skipLayout] using skipLayout_comment h.line
      rw [List.nil_append, hclose]
      exact .swallowed
    | false =>
      have hclose : skipLayout false (')' :: more) = ')' :: more := by
        simp [skipLayout, isBlank_close]
      rw [List.nil_append, hclose]
      exact .on []
  | cons c cs ih =>
    rw [List.cons_append, skipLayout, skipLayout]
    split
    · exact ih _
    · split
      · exact ih true
      · split
        · exact ih false
        · exact .on (c :: cs)

theorem goes_skip (h : IsPlain more) (verbose : Bool) {s t : List Char} (hst : Goes more s t) :
    Goes more (skip verbose s) (skip verbose t) := by
  cases hst with
  | on =>
    cases verbose with
    | true => exact goes_skipLayout h false s
    | false => exact .on s
  | swallowed =>
    cases verbose <;> exact .swallowed

theorem skip_close (verbose : Bool) (more : List Char) :
    skip verbose (')' :: more) = ')' :: more := by
  simp [skip, skipLayout, isBlank_close]

theorem dropWhile_close {p : Char → Bool} (hp : p ')' = false) (cs more : List Char) :
    (cs ++ ')' :: more).dropWhile p = cs.dropWhile p ++ ')' :: more := by
  induction cs with
  | nil => simp [hp]
  | cons c cs ih =>
    rw [List.cons_append, List.dropWhile_cons, List.dropWhile_cons]
    split
    · exact ih
    · rfl

theorem takeWhile_close {p : Char → Bool} (hp : p ')' = false) (cs more : List Char) :
    (cs ++ ')' :: more).takeWhile p = cs.takeWhile p := by
  induction cs with
  | nil => simp [hp]
  | cons c cs ih =>
    rw [List.cons_append, List.takeWhile_cons, List.takeWhile_cons, ih]

theorem goes_dropWhile {p : Char → Bool} (hp : p ')' = false) {s t : List Char}
    (hst : Goes more s t) : Goes more (s.dropWhile p) (t.dropWhile p) := by
  cases hst with
  | on =>
    rw [dropWhile_close hp]
    exact .on _
  | swallowed => exact .swallowed

/-- A reader that looks at the next character that is not skipped. -/
theorem Followed.of_skip {α : Type} (h : IsPlain more) (verbose : Bool) (cs : List Char)
    {f : Option (α × List Char)} {g : Char → List Char → Option (α × List Char)}
    (hclose : Followed more limit f (g ')' more)) (hnil : Followed more limit f f)
    (hcons : ∀ c rest, skip verbose cs = c :: rest →
      Followed more limit (g c rest) (g c (rest ++ ')' :: more))) :
    Followed more limit
      (match skip verbose cs with
        | [] => f
        | c :: rest => g c rest)
      (match skip verbose (cs ++ ')' :: more) with
        | [] => f
        | c :: rest => g c rest) := by
  have hgoes := goes_skip h verbose (.on cs)
  generalize skip verbose (cs ++ ')' :: more) = t at hgoes ⊢
  generalize skip verbose cs = s at hgoes hcons ⊢
  cases hgoes with
  | on =>
    cases s with
    | nil => exact hclose
    | cons c rest => exact hcons c rest rfl
  | swallowed => exact hnil

/-! ### Escapes -/

theorem followed_braced (h : IsPlain more) (verbose : Bool) (cs : List Char) :
    Followed more more (braced verbose cs) (braced verbose (cs ++ ')' :: more)) := by
  rw [braced_eq, braced_eq]
  refine .of_skip h verbose cs ?_ followed_none fun c rest hs => ?_
  · rw [if_neg (by decide)]
    exact .beyond ((leaves_braced verbose more).map fun _ => rfl)
  · split
    · exact .kept [] rest
    · exact (followed_braced h verbose rest).map (c :: ·)
termination_by cs.length
decreasing_by exact length_of_skip ‹_›

theorem followed_readFixed? (h : IsPlain more) (verbose : Bool) (n : Nat) (cs : List Char) :
    Followed more more (readFixed? verbose n cs) (readFixed? verbose n (cs ++ ')' :: more)) := by
  induction n generalizing cs with
  | zero => exact .kept [] cs
  | succ n ih =>
    cases cs with
    | nil =>
      refine .beyond (.mono (suffix_skip verbose more) ?_)
      exact (leaves_readFixed? verbose n _).map fun _ => rfl
    | cons c cs =>
      have hrest := Followed.of_goes (ih _) (leaves_readFixed? verbose n [])
        (goes_skip h verbose (.on cs))
      exact hrest.map (c :: ·)

theorem followed_readHex? (h : IsPlain more) (verbose : Bool) (n : Nat) (cs : List Char) :
    Followed more more (readHex? verbose (n + 1) cs)
      (readHex? verbose (n + 1) (cs ++ ')' :: more)) := by
  rw [readHex?_eq, readHex?_eq]
  refine .of_skip h verbose cs ?_ followed_none fun c rest _ => ?_
  · rw [if_neg (by decide)]
    have hfixed := followed_readFixed? h verbose (n + 1) []
    exact hfixed.filterMap scalar? (Letter.mk · (n + 1 = 2))
  · split
    · exact (followed_braced h verbose rest).filterMap scalar? (Letter.mk · false)
    · exact (followed_readFixed? h verbose (n + 1) (c :: rest)).filterMap scalar?
        (Letter.mk · (n + 1 = 2))

theorem followed_readProperty? (h : IsPlain more) (verbose negated : Bool) (cs : List Char) :
    Followed more more (readProperty? verbose negated cs)
      (readProperty? verbose negated (cs ++ ')' :: more)) := by
  rw [readProperty?_eq, readProperty?_eq]
  refine .of_skip h verbose cs ?_ followed_none fun c rest _ => ?_
  · rw [if_neg (by decide)]
    exact .beyond (leaves_map _ fun _ => List.suffix_rfl)
  · split
    · exact (followed_braced h verbose rest).filterMap CharSet.queried? fun q =>
        Item.property q.2 (negated != q.1)
    · exact followed_map _ _

theorem any_head?_skip_close (h : IsPlain more) (verbose : Bool) (cs : List Char)
    {p : Char → Bool} (hp : p ')' = false) :
    (skip verbose (cs ++ ')' :: more)).head?.any p = (skip verbose cs).head?.any p := by
  have hgoes := goes_skip h verbose (.on cs)
  generalize skip verbose (cs ++ ')' :: more) = t at hgoes ⊢
  generalize skip verbose cs = s at hgoes ⊢
  cases hgoes with
  | on =>
    cases s with
    | nil => simp [hp]
    | cons c rest => rfl
  | swallowed => rfl

theorem followed_readBoundary? (h : IsPlain more) (verbose : Bool) (cs : List Char) :
    Followed more more (readBoundary? verbose cs) (readBoundary? verbose (cs ++ ')' :: more)) := by
  rw [readBoundary?_eq, readBoundary?_eq]
  cases cs with
  | nil => exact .kept _ []
  | cons c cs =>
    rw [List.cons_append]
    simp only [any_head?_skip_close h verbose cs (p := fun d => d.isAlpha || d = '-') (by decide)]
    split
    · exact (followed_braced h verbose cs).filterMap boundary? id
    · exact .kept _ (c :: cs)

theorem readEscape?_close (verbose : Bool) (more : List Char) :
    readEscape? verbose (')' :: more) = some (.item (.letter ⟨')', false⟩), more) :=
  rfl

theorem followed_readEscape? (h : IsPlain more) (verbose : Bool) (cs : List Char) :
    Followed more more (readEscape? verbose cs) (readEscape? verbose (cs ++ ')' :: more)) := by
  cases cs with
  | nil =>
    rw [List.nil_append, readEscape?_close]
    exact .beyond (leaves_some List.suffix_rfl)
  | cons c cs =>
    rw [List.cons_append]
    unfold readEscape?
    dsimp only
    split
    · exact (followed_readHex? h verbose 1 cs).map fun letter => Escape.item (.letter letter)
    · exact (followed_readHex? h verbose 3 cs).map fun letter => Escape.item (.letter letter)
    · exact (followed_readHex? h verbose 7 cs).map fun letter => Escape.item (.letter letter)
    · exact (followed_readProperty? h verbose false cs).map Escape.item
    · exact (followed_readProperty? h verbose true cs).map Escape.item
    · exact (followed_readBoundary? h verbose cs).map Escape.place
    · exact followed_map _ _

/-! ### Classes -/

theorem followed_readItem? (h : IsPlain more) (verbose : Bool) (cs : List Char) :
    Followed more more (readItem? verbose cs) (readItem? verbose (cs ++ ')' :: more)) := by
  cases cs with
  | nil => exact .beyond (leaves_some List.suffix_rfl)
  | cons c cs =>
    rw [List.cons_append]
    by_cases hc : c = '\\'
    · subst hc
      rw [readItem?_escape, readItem?_escape]
      exact (followed_readEscape? h verbose cs).filterMap Escape.item? id
    · rw [readItem?_letter hc, readItem?_letter hc]
      exact .kept _ cs

theorem head?_close {d : Char} (hd : d ≠ ')') (cs more : List Char) :
    (cs ++ ')' :: more).head? = some d ↔ cs.head? = some d := by
  cases cs with
  | nil => simp [Ne.symm hd]
  | cons c cs => rfl

/-- The parenthesis does not decide what a hyphen means. -/
theorem decider?_close {d : Char} (hblank : Text.isBlank d = false) (hhash : d ≠ '#')
    (hclose : d ≠ ')') (verbose : Bool) (cs more : List Char) :
    decider? verbose (cs ++ ')' :: more) = some d ↔ decider? verbose cs = some d := by
  have hdrop : cs.head? = some d → (cs.dropWhile Text.isBlank).head? = some d := by
    intro h
    obtain ⟨_, rfl⟩ := List.head?_eq_some_iff.1 h
    simp [hblank]
  unfold decider?
  split
  · rw [dropWhile_close isBlank_close]
    cases hr : cs.dropWhile Text.isBlank with
    | nil =>
      rw [hr] at hdrop
      simpa [Ne.symm hclose] using hdrop
    | cons e rest =>
      by_cases he : e = '#'
      · subst he
        have hcs : cs.head? ≠ some d := fun h => hhash (by simpa [hr, eq_comm] using hdrop h)
        simp only [List.cons_append, dropWhile_close isBlank_close]
        cases rest.dropWhile Text.isBlank with
        | nil => simp [Ne.symm hclose, hcs]
        | cons f rest => simp
      · simp [he]
  · exact head?_close hclose cs more

theorem followed_rangeAfter (h : IsPlain more) (verbose : Bool) (first : Item) (cs : List Char) :
    Followed more (')' :: more) (rangeAfter verbose first cs)
      (rangeAfter verbose first (cs ++ ')' :: more)) := by
  unfold rangeAfter
  refine .of_skip h verbose cs ?_ followed_none fun c rest _ => ?_
  · rw [if_neg (fun hc => absurd hc.1 (by decide))]
    exact .beyond (leaves_some List.suffix_rfl)
  · simp only [ne_eq, decider?_close (d := ']') (by decide) (by decide) (by decide),
      decider?_close (d := '-') (by decide) (by decide) (by decide)]
    split
    · have hitem := Followed.of_goes (followed_readItem? h verbose (skip verbose rest)) leaves_none
        (goes_skip h verbose (.on rest))
      exact (hitem.mono (List.suffix_cons ')' more)).filterMap (range? first) id
    · exact .kept _ (c :: rest)

theorem followed_readRange? (h : IsPlain more) (verbose : Bool) (c : Char) (cs : List Char) :
    Followed more (')' :: more) (readRange? verbose (c :: cs))
      (readRange? verbose (c :: cs ++ ')' :: more)) := by
  rw [readRange?_eq, readRange?_eq]
  refine ((followed_readItem? h verbose (c :: cs)).mono (List.suffix_cons _ _)).bind
    (fun first s t _ hgoes => ?_) fun p => leaves_rangeAfter verbose p.1 p.2
  exact .of_goes (followed_rangeAfter h verbose first s) (leaves_rangeAfter verbose first []) hgoes

theorem posixAfter_close (hmore : ':' ∉ more) (negated : Bool) (cs : List Char) :
    posixAfter negated (cs ++ ')' :: more) =
      (posixAfter negated cs).map fun p => (p.1, p.2 ++ ')' :: more) := by
  have hnone : (')' :: more).dropWhile (· ≠ ':') = [] := by
    refine List.dropWhile_eq_nil_iff.2 fun c hc => decide_eq_true ?_
    rintro rfl
    exact absurd hc (by simpa using hmore)
  have hsplit := List.takeWhile_append_dropWhile (p := (· ≠ ':')) (l := cs)
  unfold posixAfter
  rw [List.dropWhile_append, List.takeWhile_append]
  cases hr : cs.dropWhile (· ≠ ':') with
  | nil =>
    rw [hnone]
    rfl
  | cons c rest =>
    have hlength : (cs.takeWhile (· ≠ ':')).length ≠ cs.length := by
      intro hlength
      have := congrArg List.length hsplit
      rw [List.length_append, hlength, hr, List.length_cons] at this
      omega
    rw [if_neg hlength, List.isEmpty_cons, if_neg (by decide)]
    by_cases hc : c = ':'
    · subst hc
      cases rest with
      | nil => simp
      | cons d rest =>
        by_cases hd : d = ']'
        · subst hd
          simp [Function.comp_def]
        · simp [hd]
    · simp [hc]

/-- A named class of ASCII is closed before the parenthesis. -/
theorem readPosix?_close (h : IsPlain more) (cs : List Char) :
    readPosix? (cs ++ ')' :: more) = (readPosix? cs).map fun p => (p.1, p.2 ++ ')' :: more) := by
  cases cs with
  | nil => simp [readPosix?_eq]
  | cons c cs =>
    rw [List.cons_append, readPosix?_eq, readPosix?_eq]
    simp only [head?_close (d := '^') (by decide)]
    split
    · split
      · next hcaret =>
        rw [List.tail_append_of_ne_nil (by rintro rfl; simp at hcaret)]
        exact posixAfter_close h.colon true cs.tail
      · exact posixAfter_close h.colon false cs
    · rfl

theorem operation?_close (c : Char) (cs more : List Char) :
    operation? (c :: cs ++ ')' :: more) =
      (operation? (c :: cs)).map fun p => (p.1, p.2 ++ ')' :: more) := by
  cases cs with
  | nil =>
    simp only [List.cons_append, List.nil_append, operation?]
    split
    · next hc =>
      subst hc
      rfl
    · rfl
  | cons d cs =>
    simp only [List.cons_append, operation?]
    split
    · simp [Function.comp_def]
    · rfl

theorem followed_readHyphens (h : IsPlain more) (verbose : Bool) (sofar : ClassSet)
    (cs : List Char) :
    Followed more limit (some (readHyphens verbose sofar cs))
      (some (readHyphens verbose sofar (cs ++ ')' :: more))) := by
  cases cs with
  | nil =>
    rw [List.nil_append, readHyphens, readHyphens, if_neg (by decide)]
    exact .kept sofar []
  | cons c cs =>
    rw [List.cons_append, readHyphens, readHyphens]
    split
    · exact .of_goes (f := fun cs => some (readHyphens verbose _ cs))
        (followed_readHyphens h verbose _ (skip verbose cs))
        (leaves_some (suffix_readHyphens verbose _ [])) (goes_skip h verbose (.on cs))
    · exact .kept sofar (c :: cs)
termination_by cs.length
decreasing_by exact Nat.lt_succ_of_le (length_skip verbose cs)

theorem followed_openingAfter (h : IsPlain more) (verbose negated : Bool) (cs : List Char) :
    Followed more limit (some (openingAfter verbose negated cs))
      (some (openingAfter verbose negated (cs ++ ')' :: more))) := by
  cases cs with
  | nil =>
    rw [List.nil_append, openingAfter, openingAfter, if_neg (by decide), readHyphens,
      if_neg (by decide)]
    exact .kept _ []
  | cons c cs =>
    rw [List.cons_append, openingAfter, openingAfter]
    split
    · exact .kept _ cs
    · exact (followed_readHyphens h verbose .empty (c :: cs)).map (negated, ·)

theorem followed_opened (h : IsPlain more) (verbose : Bool) (cs : List Char) :
    Followed more limit (some (opened verbose cs)) (some (opened verbose (cs ++ ')' :: more))) := by
  rw [opened_eq, opened_eq]
  refine .of_goes (f := fun cs => some (openedAfter verbose cs)) ?_
    (leaves_some (suffix_openedAfter verbose [])) (goes_skip h verbose (.on cs))
  cases skip verbose cs with
  | nil =>
    rw [List.nil_append, openedAfter, openedAfter, if_neg (by decide)]
    exact followed_openingAfter h verbose false []
  | cons c rest =>
    rw [List.cons_append, openedAfter, openedAfter]
    split
    · exact .of_goes (f := fun cs => some (openingAfter verbose true cs))
        (followed_openingAfter h verbose true (skip verbose rest))
        (leaves_some (suffix_openingAfter verbose true [])) (goes_skip h verbose (.on rest))
    · exact followed_openingAfter h verbose false (c :: rest)

/-- A class is read in the same way if all items are that may stand in it. -/
theorem followed_bracket? (h : IsPlain more) (verbose : Bool) (cs : List Char)
    (hitems : ∀ sofar text, text.length ≤ cs.length →
      Followed more more (items verbose sofar none text)
        (items verbose sofar none (text ++ ')' :: more))) :
    Followed more more (bracket? verbose cs) (bracket? verbose (cs ++ ')' :: more)) := by
  have leaves : ∀ sofar text, Leaves text (items verbose sofar none text) := fun sofar text =>
    .mono (List.tail_suffix text) (leaves_items verbose sofar none text)
  refine (followed_opened h verbose cs).bind (fun o s t ho hgoes => ?_) fun o =>
    (leaves _ _).map fun _ => rfl
  have hs : s.length ≤ cs.length := by
    have := (suffix_opened verbose cs).length_le
    rwa [Option.some.inj ho] at this
  exact (Followed.of_goes (hitems o.2 s hs) (leaves o.2 []) hgoes).map (o.1, ·)

theorem followed_items (h : IsPlain more) (verbose : Bool) (sofar : ClassSet) (pending : Pending)
    (cs : List Char) :
    Followed more more (items verbose sofar pending cs)
      (items verbose sofar pending (cs ++ ')' :: more)) := by
  have followed : ∀ sofar pending s t, s.length < cs.length → Goes more s t →
      Followed more more (items verbose sofar pending s) (items verbose sofar pending t) :=
    fun sofar pending s t _ hgoes =>
      .of_goes (followed_items h verbose sofar pending s) (leaves_items verbose sofar pending [])
        hgoes
  have hclose := leaves_items verbose sofar pending (')' :: more)
  rw [items_eq, skip_close] at hclose
  rw [items_eq, items_eq]
  refine .of_skip h verbose cs (.beyond hclose) followed_none fun c rest hs => ?_
  have hlength := length_of_skip hs
  split
  · exact .kept _ rest
  · rw [← List.cons_append, operation?_close]
    cases ho : operation? (c :: rest) with
    | some p =>
      have hp := (leaves_operation? c rest _ _ ho).length_le
      exact followed _ _ p.2 _ (Nat.lt_of_le_of_lt hp hlength) (.on p.2)
    | none =>
      simp only [Option.map_none]
      split
      · rw [readPosix?_close h]
        cases hp : readPosix? rest with
        | some p =>
          have hp := (leaves_readPosix? rest _ _ hp).length_le
          exact followed _ _ p.2 _ (Nat.lt_of_le_of_lt hp hlength) (.on p.2)
        | none =>
          have hbracket := followed_bracket? h verbose rest fun sofar text htext =>
            followed sofar none text _ (Nat.lt_of_le_of_lt htext hlength) (.on text)
          refine hbracket.bind (fun a s t ha hgoes => ?_) fun p =>
            .mono (List.tail_suffix p.2) (leaves_items verbose _ _ p.2)
          have hs := (leaves_bracket? verbose rest (fun sofar text _ =>
            .mono (List.tail_suffix text) (leaves_items verbose sofar none text)) _ _ ha).length_le
          exact followed _ _ s t (Nat.lt_of_le_of_lt hs hlength) hgoes
      · refine (followed_readRange? h verbose c rest).bind_tail (fun set s t hx hgoes => ?_)
          fun p => leaves_items verbose _ _ p.2
        have hs := (leaves_readRange? verbose c rest _ _ hx).length_le
        exact followed _ _ s t (Nat.lt_of_le_of_lt hs hlength) hgoes
termination_by cs.length

/-! ### Repetitions -/

theorem followed_takeDigits (h : IsPlain more) (verbose : Bool) (digits cs : List Char) :
    Followed more limit (some (takeDigits verbose digits cs))
      (some (takeDigits verbose digits (cs ++ ')' :: more))) := by
  cases cs with
  | nil =>
    rw [List.nil_append, takeDigits, takeDigits, if_neg (by decide)]
    exact .kept digits []
  | cons c cs =>
    rw [List.cons_append, takeDigits, takeDigits]
    split
    · exact .of_goes (f := fun cs => some (takeDigits verbose (digits ++ [c]) cs))
        (followed_takeDigits h verbose _ (skip verbose cs))
        (leaves_some (suffix_takeDigits verbose _ [])) (goes_skip h verbose (.on cs))
    · exact .kept digits (c :: cs)
termination_by cs.length
decreasing_by exact Nat.lt_succ_of_le (length_skip verbose cs)

theorem readCount?_eq (verbose : Bool) (cs : List Char) :
    readCount? verbose cs =
      (some (takeDigits verbose [] (cs.dropWhile Text.isBlank))).bind fun p =>
        ((readNumber? 10 p.1).filter (· < 2 ^ 32)).map fun n =>
          (n, p.2.dropWhile Text.isBlank) := by
  unfold readCount?
  dsimp only [Option.bind_some]
  cases readNumber? 10 (takeDigits verbose [] (cs.dropWhile Text.isBlank)).1 with
  | none => rfl
  | some n =>
    simp only [Option.bind_some, Option.filter_some, decide_eq_true_eq]
    split <;> rfl

theorem followed_readCount? (h : IsPlain more) (verbose : Bool) (cs : List Char) :
    Followed more limit (readCount? verbose cs) (readCount? verbose (cs ++ ')' :: more)) := by
  rw [readCount?_eq, readCount?_eq, dropWhile_close isBlank_close]
  refine (followed_takeDigits h verbose [] _).bind (fun digits s t _ hgoes => ?_) fun p =>
    leaves_map _ fun _ => List.dropWhile_suffix _
  exact (goes_dropWhile isBlank_close hgoes).followed_map _ id

theorem readCount?_close (verbose : Bool) (more : List Char) :
    readCount? verbose (')' :: more) = none := by
  simp [readCount?, isBlank_close, takeDigits, readNumber?]

theorem followed_mostAfter (h : IsPlain more) (verbose : Bool) (least : Nat) (cs : List Char) :
    Followed more limit (mostAfter verbose least cs)
      (mostAfter verbose least (cs ++ ')' :: more)) := by
  unfold mostAfter
  refine .of_skip h verbose cs ?_ followed_none fun c rest _ => ?_
  · rw [if_neg (by decide), readCount?_close]
    exact followed_none
  · split
    · exact .kept _ rest
    · refine (followed_readCount? h verbose (c :: rest)).bind (fun bound s t _ hgoes => ?_) ?_
      · cases hgoes with
        | swallowed => exact followed_none
        | on =>
          cases s with
          | nil =>
            rw [List.nil_append]
            simpa using followed_none
          | cons d after =>
            rw [List.cons_append]
            dsimp only
            split
            · exact .kept _ after
            · exact followed_none
      · rintro ⟨bound, after⟩
        dsimp only
        split
        · exact leaves_none
        · split
          · exact leaves_some (List.suffix_cons _ _)
          · exact leaves_none

theorem followed_boundsAfter (h : IsPlain more) (verbose : Bool) (least : Nat) (cs : List Char) :
    Followed more limit (boundsAfter verbose least cs)
      (boundsAfter verbose least (cs ++ ')' :: more)) := by
  cases cs with
  | nil =>
    rw [List.nil_append, boundsAfter, boundsAfter, if_neg (by decide), if_neg (by decide)]
    exact followed_none
  | cons c cs =>
    rw [List.cons_append, boundsAfter, boundsAfter]
    split
    · exact .kept _ cs
    · split
      · exact followed_mostAfter h verbose least cs
      · exact followed_none

theorem followed_readMark? (h : IsPlain more) (verbose : Bool) (mark : Char) (cs : List Char) :
    Followed more limit (readMark? verbose mark cs)
      (readMark? verbose mark (cs ++ ')' :: more)) := by
  by_cases hmark : mark ≠ '*' ∧ mark ≠ '+' ∧ mark ≠ '?'
  · rw [readMark?_brace hmark, readMark?_brace hmark, Option.map_eq_bind, Option.map_eq_bind]
    have hcount : Followed more limit (readCount? verbose (skip verbose cs))
        (readCount? verbose (skip verbose (cs ++ ')' :: more))) :=
      .of_goes (followed_readCount? h verbose _) (leaves_readCount? verbose [])
        (goes_skip h verbose (.on cs))
    have hbounds := hcount.bind (f := fun p => boundsAfter verbose p.1 p.2)
      (fun least s t _ hgoes => .of_goes (followed_boundsAfter h verbose least s)
        (leaves_boundsAfter verbose least []) hgoes)
      fun p => leaves_boundsAfter verbose p.1 p.2
    exact hbounds.bind (fun bounds s t _ hgoes => (goes_skip h verbose hgoes).followed bounds)
      fun p => leaves_some (suffix_skip verbose p.2)
  · unfold readMark?
    split
    · exact .kept _ cs
    · split
      · exact .kept _ cs
      · split
        · exact .kept _ cs
        · exact absurd ⟨‹_›, ‹_›, ‹_›⟩ hmark

theorem followed_readGreed (cs : List Char) :
    Followed more limit (some (readGreed cs)) (some (readGreed (cs ++ ')' :: more))) := by
  cases cs with
  | nil => exact .kept true []
  | cons c cs =>
    by_cases hc : c = '?'
    · subst hc
      exact .kept false cs
    · simpa [readGreed, hc] using .kept true (c :: cs)

theorem followed_repetitions (h : IsPlain more) (verbose : Bool) (body : Pattern)
    (cs : List Char) :
    Followed more limit (repetitions verbose body cs)
      (repetitions verbose body (cs ++ ')' :: more)) := by
  rw [repetitions_eq, repetitions_eq]
  refine .of_skip h verbose cs ?_ (.swallowed body) fun c rest hs => ?_
  · rw [if_neg (by decide)]
    exact .kept body []
  · split
    · have hmark : Followed more limit (readMark? verbose c rest)
          (readMark? verbose c (rest ++ ')' :: more)) := followed_readMark? h verbose c rest
      refine hmark.bind (fun bounds s t hs' hgoes => ?_) fun p =>
        .mono (suffix_readGreed p.2) (leaves_repetitions verbose _ _)
      have hgreed : Followed more limit (some (readGreed s)) (some (readGreed t)) :=
        .of_goes (f := fun cs => some (readGreed cs)) (followed_readGreed s)
          (leaves_some (suffix_readGreed [])) hgoes
      refine hgreed.bind
        (f := fun g => repetitions verbose (.repetition body bounds.1 bounds.2 g.1) g.2)
        (fun greedy u v hu hgoes => ?_) fun g => leaves_repetitions verbose _ g.2
      have hlength : u.length < cs.length := by
        have := length_of_skip hs
        have := (leaves_readMark? verbose c rest _ _ hs').length_le
        have hgreed := (suffix_readGreed s).length_le
        simp only [Option.some.inj hu] at hgreed
        omega
      exact .of_goes (followed_repetitions h verbose _ u) (leaves_repetitions verbose _ []) hgoes
    · exact .kept body (c :: rest)
termination_by cs.length

/-! ### Groups -/

theorem followed_readName? (scope : Scope) (cs : List Char) :
    Followed more limit (readName? scope cs) (readName? scope (cs ++ ')' :: more)) := by
  unfold readName?
  dsimp only
  rw [dropWhile_close continuesName_close, takeWhile_close continuesName_close]
  cases cs.dropWhile continuesName with
  | nil => exact followed_none
  | cons c rest =>
    by_cases hc : c = '>'
    · subst hc
      rw [List.cons_append]
      split
      · next inner hinner =>
        cases hinner
        split
        · exact .kept _ rest
        · exact followed_none
      · next hinner => exact absurd rfl (hinner rest)
    · simpa [hc] using followed_none

theorem followed_named (scope : Scope) (cs : List Char) :
    Followed more limit (named scope cs) (named scope (cs ++ ')' :: more)) :=
  (followed_readName? scope cs).map fun inner => (Opening.group (some scope.groups) [], inner)

theorem followed_readFlags? (seen : List Char) (value : Bool) (cs : List Char) :
    Followed more (')' :: more) (readFlags? seen value cs)
      (readFlags? seen value (cs ++ ')' :: more)) := by
  induction cs generalizing seen value with
  | nil => exact .beyond (leaves_readFlags? seen value _)
  | cons c cs ih =>
    rw [List.cons_append, readFlags?, readFlags?]
    split
    · split
      · exact followed_none
      · exact .kept [] (c :: cs)
    · split
      · exact followed_none
      · split
        · exact ih _ _
        · cases flag? c with
          | none => exact followed_none
          | some flag => exact (ih _ _).map ((flag, value) :: ·)

theorem followed_flagged (scope : Scope) (changes : FlagChanges) (cs : List Char) :
    Followed more more (flagged scope changes cs) (flagged scope changes (cs ++ ')' :: more)) := by
  cases cs with
  | nil => exact .beyond (leaves_flagged scope changes (')' :: more))
  | cons c cs =>
    rw [List.cons_append, flagged, flagged]
    split
    · exact .kept _ cs
    · split
      · exact .kept _ cs
      · exact followed_none

theorem marked_close (scope : Scope) (more : List Char) : marked scope (')' :: more) = none := by
  simp [marked, readFlags?, flagged]

theorem followed_marked (scope : Scope) (cs : List Char) :
    Followed more more (marked scope cs) (marked scope (cs ++ ')' :: more)) := by
  cases cs with
  | nil =>
    rw [List.nil_append, marked_close]
    exact followed_none
  | cons c cs =>
    rw [List.cons_append, marked, marked]
    simp only [head?_close (d := '=') (by decide), head?_close (d := '!') (by decide),
      head?_close (d := '<') (by decide)]
    split
    · exact followed_none
    · split
      · split
        · exact followed_none
        · exact followed_named scope cs
      · split
        · next hname =>
          obtain ⟨rest, rfl⟩ := List.head?_eq_some_iff.1 hname.2
          exact followed_named scope rest
        · exact (followed_readFlags? [] true (c :: cs)).bind_tail
            (fun changes s t _ hgoes =>
              .of_goes (followed_flagged scope changes s) leaves_none hgoes)
            fun p => leaves_flagged scope p.1 p.2

theorem followed_opening? (h : IsPlain more) (scope : Scope) (cs : List Char) :
    Followed more more (opening? scope cs) (opening? scope (cs ++ ')' :: more)) := by
  rw [opening?_eq, opening?_eq]
  refine .of_skip h scope.verbose cs ?_ (.swallowed _) fun c rest _ => ?_
  · rw [if_neg (by decide)]
    exact .kept _ []
  · split
    · exact followed_marked scope rest
    · exact .kept _ (c :: rest)

/-! ### Patterns -/

theorem followed_readAtom? (h : IsPlain more) (verbose : Bool) (c : Char) (cs : List Char) :
    Followed more more (readAtom? verbose (c :: cs))
      (readAtom? verbose (c :: cs ++ ')' :: more)) := by
  rw [List.cons_append, readAtom?_eq, readAtom?_eq]
  split
  · exact (followed_bracket? h verbose cs fun sofar text _ =>
      followed_items h verbose sofar none text).map fun p => Pattern.bracket p.1 p.2
  · split
    · exact (followed_readEscape? h verbose cs).map Escape.pattern
    · exact followed_map _ _

/-- What follows a part is read in the same way if all patterns are that may stand there. -/
theorem followed_afterPart_of (h : IsPlain more) (scope : Scope) (earlier : Option Pattern)
    (front part : Pattern) (cs : List Char)
    (halternatives : ∀ front text, text.length ≤ cs.length →
      Followed more more (alternatives scope earlier front text)
        (alternatives scope earlier front (text ++ ')' :: more))) :
    Followed more more (afterPart scope earlier front part cs)
      (afterPart scope earlier front part (cs ++ ')' :: more)) := by
  refine (followed_repetitions h scope.verbose part cs).bind (fun repeated s t hs hgoes => ?_)
    fun p => leaves_alternatives scope earlier _ p.2
  have hs := (leaves_repetitions scope.verbose part cs _ _ hs).length_le
  exact .of_goes (halternatives _ s hs) (leaves_alternatives scope earlier _ []) hgoes

/-- What follows an opening is read in the same way if all patterns are that may stand there. -/
theorem followed_afterOpening_of (h : IsPlain more) (scope : Scope) (earlier : Option Pattern)
    (front : Pattern) (opening : Opening × Scope) (cs : List Char)
    (halternatives : ∀ scope earlier front text, text.length ≤ cs.length →
      Followed more more (alternatives scope earlier front text)
        (alternatives scope earlier front (text ++ ')' :: more))) :
    Followed more more (afterOpening scope earlier front opening cs)
      (afterOpening scope earlier front opening (cs ++ ')' :: more)) := by
  obtain ⟨opening, inner⟩ := opening
  cases opening with
  | flags changes => exact halternatives _ _ _ cs (Nat.le_refl _)
  | group number changes =>
    refine (halternatives inner none .empty cs (Nat.le_refl _)).bind
      (fun body s t hbody hgoes => .of_goes ?_ leaves_none hgoes)
      fun p => .mono (List.tail_suffix p.2) (leaves_afterGroup scope earlier front _ _ _ _ p.2)
    cases s with
    | nil => exact .beyond (leaves_afterGroup scope earlier front _ _ _ _ (')' :: more))
    | cons c closed =>
      have hclosed := (leaves_alternatives inner none .empty cs _ _ hbody).length_le
      rw [List.length_cons] at hclosed
      exact followed_afterPart_of h _ _ _ _ closed fun front text htext =>
        halternatives _ _ _ text (by omega)

/-- **A pattern is read up to the parenthesis after it**, unless it ends in a comment or is no
pattern by itself. -/
theorem followed_alternatives (h : IsPlain more) (scope : Scope) (earlier : Option Pattern)
    (front : Pattern) (cs : List Char) :
    Followed more more (alternatives scope earlier front cs)
      (alternatives scope earlier front (cs ++ ')' :: more)) := by
  rw [alternatives_eq, alternatives_eq]
  refine .of_skip h scope.verbose cs ?_ (.swallowed _) fun c rest hs => ?_
  · rw [if_pos rfl]
    exact .kept _ []
  have hlength := length_of_skip hs
  split
  · exact .kept _ (c :: rest)
  · split
    · exact followed_alternatives h _ _ _ rest
    · split
      · refine (followed_opening? h scope rest).bind (fun opening s t ho hgoes => ?_)
          fun p => leaves_afterOpening _ _ _ p.1 p.2
        have hs := (leaves_opening? scope rest _ _ ho).length_le
        refine .of_goes (followed_afterOpening_of h scope earlier front opening s
          fun scope earlier front text htext => ?_) (leaves_afterOpening _ _ _ _ []) hgoes
        exact followed_alternatives h scope earlier front text
      · refine (followed_readAtom? h scope.verbose c rest).bind (fun atom s t ha hgoes => ?_)
          fun p => leaves_afterPart _ _ _ p.1 p.2
        have hs := (leaves_readAtom? scope.verbose c rest _ _ ha).length_le
        refine .of_goes (followed_afterPart_of h scope earlier front atom s
          fun front text htext => ?_) (leaves_afterPart _ _ _ _ []) hgoes
        exact followed_alternatives h scope earlier front text
termination_by cs.length
decreasing_by all_goals omega

end Pattern

end Axial
