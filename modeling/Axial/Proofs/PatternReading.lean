import Axial.Regex.Parser

/-!
# The readers of patterns

A reader of patterns takes what it reads from the start of a text and gives the rest. Here each
reader has an equation that shows it by the first character that counts.

* `Pattern.braced`, `Pattern.items`, `Pattern.repetitions`, `Pattern.alternatives` : the readers
  that call themselves, without the proof that they come to an end.
* `Pattern.items_eq`, `Pattern.repetitions_eq`, `Pattern.alternatives_eq` : what they do next.
-/

namespace Axial

namespace Pattern

variable {verbose : Bool} {cs : List Char}

/-! ### Readers that call themselves -/

/-- The characters up to a closing brace, and the text after it. -/
def braced (verbose : Bool) (cs : List Char) : Option (List Char × List Char) :=
  (readBraced? verbose cs).map fun p => (p.1, p.2.1)

theorem braced_eq (verbose : Bool) (cs : List Char) :
    braced verbose cs =
      match skip verbose cs with
      | [] => none
      | c :: more =>
        if c = '\x7d' then some ([], more)
        else (braced verbose more).map fun p => (c :: p.1, p.2) := by
  rw [braced, readBraced?.eq_def]
  split
  · next h => simp only [h, Option.map_none]
  · next c more h =>
    simp only [h]
    split
    · rfl
    · simp [braced, Function.comp_def]

theorem braced_bind {α : Type} (verbose : Bool) (cs : List Char)
    (f : List Char × List Char → Option α) :
    (braced verbose cs).bind f = (readBraced? verbose cs).bind fun p => f (p.1, p.2.1) :=
  Option.bind_map

/-- The items of a class up to its closing bracket, and the text after it. -/
def items (verbose : Bool) (sofar : ClassSet) (pending : Pending) (cs : List Char) :
    Option (ClassSet × List Char) :=
  (readItems verbose sofar pending cs).map fun p => (p.1, p.2.1)

/-- The operation of a sign that is written twice. -/
def sign? : Char → Option SetOperation
  | '&' => some .intersection
  | '-' => some .difference
  | '~' => some .symmetricDifference
  | _ => none

/-- An operation on classes at the start of a text, and the text after it. -/
def operation? : List Char → Option (SetOperation × List Char)
  | c :: d :: more => if c = d then (sign? c).map fun operation => (operation, more) else none
  | _ => none

theorem operation?_eq_none {cs : List Char} (hand : ∀ more, cs ≠ '&' :: '&' :: more)
    (hminus : ∀ more, cs ≠ '-' :: '-' :: more) (htilde : ∀ more, cs ≠ '~' :: '~' :: more) :
    operation? cs = none := by
  unfold operation? sign?
  split
  · next c d more =>
    split
    · next hcd =>
      subst hcd
      split
      · exact absurd rfl (hand more)
      · exact absurd rfl (hminus more)
      · exact absurd rfl (htilde more)
      · rfl
    · rfl
  · rfl

/-- What follows the opening bracket of a class: whether it is negated and what stands for itself,
and the text after it. -/
def opened (verbose : Bool) (cs : List Char) : (Bool × ClassSet) × List Char :=
  (((readOpening verbose cs).1, (readOpening verbose cs).2.1), (readOpening verbose cs).2.2)

/-- A class after its opening bracket: whether it is negated and what it holds, and the text after
it. -/
def bracket? (verbose : Bool) (cs : List Char) : Option ((Bool × ClassSet) × List Char) :=
  (some (opened verbose cs)).bind fun o =>
    (items verbose o.1.2 none o.2).map fun p => ((o.1.1, p.1), p.2)

/-- A class within a class, after its opening bracket, and the items after it. -/
def itemsWithin (verbose : Bool) (sofar : ClassSet) (pending : Pending) (cs : List Char) :
    Option (ClassSet × List Char) :=
  (bracket? verbose cs).bind fun p =>
    items verbose (sofar.push (.bracket p.1.1 p.1.2)) pending p.2

theorem items_eq (verbose : Bool) (sofar : ClassSet) (pending : Pending) (cs : List Char) :
    items verbose sofar pending cs =
      match skip verbose cs with
      | [] => none
      | c :: more =>
        if c = ']' then some (pending.finish sofar, more)
        else match operation? (c :: more) with
        | some (operation, after) =>
          items verbose .empty (some (operation, pending.finish sofar)) after
        | none =>
          if c = '[' then
            match readPosix? more with
            | some (set, after) => items verbose (sofar.push set) pending after
            | none => itemsWithin verbose sofar pending more
          else (readRange? verbose (c :: more)).bind fun p =>
            items verbose (sofar.push p.1) pending p.2 := by
  rw [items, readItems.eq_def]
  split
  · next h => simp only [h, Option.map_none]
  · next h => simp only [h, Option.map_some, if_true]
  · next h => simp [h, items, Function.comp_def, operation?, sign?]
  · next h => simp [h, items, Function.comp_def, operation?, sign?]
  · next h => simp [h, items, Function.comp_def, operation?, sign?]
  · next more h =>
    have ho : operation? ('[' :: more) = none := by
      cases more <;> simp [operation?, sign?]
    simp only [h, ho]
    split
    · next hp => simp [hp, items, Function.comp_def]
    · next hp =>
      simp [hp, items, itemsWithin, bracket?, opened, Function.comp_def, Option.map_bind,
        Option.bind_map]
  · next hnil hclose hand hminus htilde hopen =>
    refine Eq.trans (b := (readRange? verbose (skip verbose cs)).bind fun p =>
      items verbose (sofar.push p.1) pending p.2) ?_ ?_
    · split
      · next hr => simp [hr]
      · next hr => simp [hr, items, Function.comp_def]
    · cases hs : skip verbose cs with
      | nil => exact absurd hs hnil
      | cons c more =>
        have hc : c ≠ ']' := fun hc => hclose more (hc ▸ hs)
        have hb : c ≠ '[' := fun hc => hopen more (hc ▸ hs)
        have ho : operation? (c :: more) = none := hs ▸ operation?_eq_none hand hminus htilde
        simp only [hc, ho, hb, if_false]

/-- The bounds of a repetition with the given mark, and the text after them. -/
def readMark? (verbose : Bool) (mark : Char) (cs : List Char) :
    Option ((Nat × Option Nat) × List Char) :=
  if mark = '*' then some ((0, none), cs)
  else if mark = '+' then some ((1, none), cs)
  else if mark = '?' then some ((0, some 1), cs)
  else (readBounds? verbose cs).map fun p => ((p.1, p.2.1), skip verbose p.2.2)

/-- Whether a character is the mark of a repetition. -/
def isMark (c : Char) : Bool :=
  c = '*' || c = '+' || c = '?' || c = '\x7b'

/-- A pattern with the repetitions at the start of a text, and the text after them. -/
def repetitions (verbose : Bool) (body : Pattern) (cs : List Char) :
    Option (Pattern × List Char) :=
  (readRepetitions verbose body cs).map fun p => (p.1, p.2.1)

theorem repetitions_eq (verbose : Bool) (body : Pattern) (cs : List Char) :
    repetitions verbose body cs =
      match skip verbose cs with
      | [] => some (body, [])
      | c :: more =>
        if isMark c then
          (readMark? verbose c more).bind fun p =>
            repetitions verbose (.repetition body p.1.1 p.1.2 (readGreed p.2).1) (readGreed p.2).2
        else some (body, c :: more) := by
  rw [repetitions, readRepetitions.eq_def]
  split
  · next h => simp [h, repetitions, isMark, readMark?, Function.comp_def]
  · next h => simp [h, repetitions, isMark, readMark?, Function.comp_def]
  · next h => simp [h, repetitions, isMark, readMark?, Function.comp_def]
  · next h =>
    simp only [h, isMark, readMark?]
    split
    · next hb => simp [hb]
    · next hb => simp [hb, repetitions, Function.comp_def]
  · next hstar hplus hmark hbrace =>
    refine Eq.trans (b := some (body, skip verbose cs)) rfl ?_
    cases hs : skip verbose cs with
    | nil => rfl
    | cons c more =>
      have hc : isMark c = false := by
        simp only [isMark, Bool.or_eq_false_iff, decide_eq_false_iff_not]
        exact ⟨⟨⟨fun hc => hstar more (hc ▸ hs), fun hc => hplus more (hc ▸ hs)⟩,
          fun hc => hmark more (hc ▸ hs)⟩, fun hc => hbrace more (hc ▸ hs)⟩
      simp [hc]

/-- The pattern up to the end of its group, with the scope there, and the text from there on. -/
def alternatives (scope : Scope) (earlier : Option Pattern) (front : Pattern) (cs : List Char) :
    Option ((Pattern × Scope) × List Char) :=
  (readAlternatives scope earlier front cs).map fun p => ((p.1, p.2.1), p.2.2.1)

/-- What follows a part: its repetitions, and then the rest of its group. -/
def afterPart (scope : Scope) (earlier : Option Pattern) (front part : Pattern) (cs : List Char) :
    Option ((Pattern × Scope) × List Char) :=
  (repetitions scope.verbose part cs).bind fun p =>
    alternatives scope earlier (front.push p.1) p.2

/-- What follows the end of a group with the given pattern inside. -/
def afterGroup (scope : Scope) (earlier : Option Pattern) (front : Pattern) (number : Option Nat)
    (changes : FlagChanges) (body : Pattern) (inner : Scope) :
    List Char → Option ((Pattern × Scope) × List Char)
  | [] => none
  | _ :: closed =>
    afterPart { inner with verbose := scope.verbose } earlier front (.group number changes body)
      closed

/-- What follows an opening parenthesis and what it opens. -/
def afterOpening (scope : Scope) (earlier : Option Pattern) (front : Pattern) :
    Opening × Scope → List Char → Option ((Pattern × Scope) × List Char)
  | (.flags changes, inner), cs => alternatives inner earlier (front.push (.flags changes)) cs
  | (.group number changes, inner), cs =>
    (alternatives inner none .empty cs).bind fun p =>
      afterGroup scope earlier front number changes p.1.1 p.1.2 p.2

/-- What an opening parenthesis opens, with the scope inside, and the text after it. -/
def opening? (scope : Scope) (cs : List Char) : Option ((Opening × Scope) × List Char) :=
  (readOpening? scope cs).map fun p => ((p.1, p.2.1), p.2.2)

theorem alternatives_eq (scope : Scope) (earlier : Option Pattern) (front : Pattern)
    (cs : List Char) :
    alternatives scope earlier front cs =
      match skip scope.verbose cs with
      | [] => some ((orElse earlier front, scope), [])
      | c :: more =>
        if c = ')' then some ((orElse earlier front, scope), c :: more)
        else if c = '|' then alternatives scope (some (.orElse earlier front)) .empty more
        else if c = '(' then
          (opening? scope more).bind fun p => afterOpening scope earlier front p.1 p.2
        else
          (readAtom? scope.verbose (c :: more)).bind fun p =>
            afterPart scope earlier front p.1 p.2 := by
  rw [alternatives, readAlternatives.eq_def]
  split
  · next h => simp [h]
  · next h => simp [h]
  · next h => simp [h, alternatives, Function.comp_def]
  · next h =>
    simp only [h]
    split
    · next ho => simp [opening?, ho]
    · next ho => simp [opening?, ho, afterOpening, alternatives, Function.comp_def]
    · next ho =>
      simp only [opening?, ho]
      split
      · next ha => simp [ha, afterOpening, alternatives]
      · next ha => simp [ha, afterOpening, afterGroup, alternatives]
      · next ha =>
        split
        · next hr => simp [ha, repetitions, hr, afterOpening, afterGroup, afterPart, alternatives]
        · next hr =>
          simp [ha, repetitions, hr, afterOpening, afterGroup, afterPart, alternatives,
            Function.comp_def]
  · next hnil hclose hbar hopen =>
    refine Eq.trans (b := (readAtom? scope.verbose (skip scope.verbose cs)).bind fun p =>
      afterPart scope earlier front p.1 p.2) ?_ ?_
    · split
      · next ha => simp [ha]
      · next ha =>
        split
        · next hr => simp [ha, afterPart, repetitions, hr]
        · next hr => simp [ha, afterPart, repetitions, hr, alternatives, Function.comp_def]
    · cases hs : skip scope.verbose cs with
      | nil => exact absurd hs hnil
      | cons c more =>
        have hc : c ≠ ')' := fun hc => hclose more (hc ▸ hs)
        have hb : c ≠ '|' := fun hc => hbar more (hc ▸ hs)
        have ho : c ≠ '(' := fun hc => hopen more (hc ▸ hs)
        simp only [hc, hb, ho, if_false]

/-! ### Readers that call others -/

/-- The character of some digits that were read, if they have one. -/
theorem readHex?_eq (verbose : Bool) (count : Nat) (cs : List Char) :
    readHex? verbose count cs =
      match skip verbose cs with
      | [] => none
      | c :: more =>
        if c = '\x7b' then
          (braced verbose more).bind fun p => (scalar? p.1).map fun x => (⟨x, false⟩, p.2)
        else (readFixed? verbose count (c :: more)).bind fun p =>
          (scalar? p.1).map fun x => (⟨x, count = 2⟩, p.2) := by
  unfold readHex?
  cases hs : skip verbose cs with
  | nil => cases count <;> rfl
  | cons c more =>
    split
    · next h =>
      cases h
      simp only [braced_bind, Option.pure_def, Option.bind_eq_bind, Option.map_eq_bind,
        Function.comp_def, if_true]
    · next h =>
      have hc : c ≠ '\x7b' := fun hc => h more (hc ▸ rfl)
      simp only [hc, Option.pure_def, Option.bind_eq_bind, Option.map_eq_bind, Function.comp_def,
        if_false]

theorem readProperty?_eq (verbose negated : Bool) (cs : List Char) :
    readProperty? verbose negated cs =
      match skip verbose cs with
      | [] => none
      | c :: more =>
        if c = '\x7b' then
          (braced verbose more).bind fun p =>
            (CharSet.queried? p.1).map fun q => (.property q.2 (negated != q.1), p.2)
        else (CharSet.named? [c]).map fun set => (.property set negated, more) := by
  unfold readProperty?
  split
  · next h => simp only [h]
  · next h =>
    simp only [h, braced_bind, Option.pure_def, Option.bind_eq_bind, Option.map_eq_bind,
      Function.comp_def, if_true]
  · next c more hbrace h =>
    have hc : c ≠ '\x7b' := hbrace
    simp only [h, hc, if_false]

theorem readBoundary?_eq (verbose : Bool) (cs : List Char) :
    readBoundary? verbose cs =
      match cs with
      | [] => some (.wordBoundary, [])
      | c :: more =>
        if c = '\x7b' ∧ (skip verbose more).head?.any fun d => d.isAlpha || d = '-' then
          (braced verbose more).bind fun p => (boundary? p.1).map fun sign => (sign, p.2)
        else some (.wordBoundary, c :: more) := by
  unfold readBoundary?
  split
  · split
    · next h =>
      simp only [h, and_self, braced_bind, Option.pure_def, Option.bind_eq_bind,
        Option.map_eq_bind, Function.comp_def, if_true]
    · next h => simp [h]
  · next hbrace =>
    cases cs with
    | nil => rfl
    | cons c more =>
      have hc : c ≠ '\x7b' := fun hc => hbrace more (hc ▸ rfl)
      simp [hc]

/-- What follows the first item of a range, or an item. -/
def rangeAfter (verbose : Bool) (first : Item) (cs : List Char) : Option (ClassSet × List Char) :=
  match skip verbose cs with
  | [] => none
  | c :: more =>
    if c = '-' ∧ decider? verbose more ≠ some ']' ∧ decider? verbose more ≠ some '-' then
      (readItem? verbose (skip verbose more)).bind fun p =>
        (range? first p.1).map fun set => (set, p.2)
    else some (.item first, c :: more)

theorem readRange?_eq (verbose : Bool) (cs : List Char) :
    readRange? verbose cs =
      (readItem? verbose cs).bind fun p => rangeAfter verbose p.1 p.2 := by
  unfold readRange?
  refine Option.bind_congr fun p _ => ?_
  obtain ⟨first, rest⟩ := p
  dsimp only
  unfold rangeAfter
  split
  · next h => simp only [h]
  · next more h =>
    simp only [h]
    split
    · next hd => rw [if_neg (fun hn => hd.elim hn.2.1 hn.2.2), Option.pure_def]
    · next hd =>
      rw [if_pos ⟨trivial, fun hn => hd (.inl hn), fun hn => hd (.inr hn)⟩]
      simp only [Option.pure_def, Option.bind_eq_bind, Option.map_eq_bind, Function.comp_def]
  · next c more hminus h =>
    have hc : c ≠ '-' := hminus
    simp [h, hc]

/-- What follows the least number of times and a comma. -/
def mostAfter (verbose : Bool) (least : Nat) (cs : List Char) :
    Option ((Nat × Option Nat) × List Char) :=
  match skip verbose cs with
  | [] => none
  | c :: more =>
    if c = '\x7d' then some ((least, none), more)
    else (readCount? verbose (c :: more)).bind fun p =>
      match p.2 with
      | [] => none
      | d :: after =>
        if d = '\x7d' ∧ least ≤ p.1 then some ((least, some p.1), after) else none

/-- What follows the least number of times. -/
def boundsAfter (verbose : Bool) (least : Nat) : List Char → Option ((Nat × Option Nat) × List Char)
  | [] => none
  | c :: more =>
    if c = '\x7d' then some ((least, some least), more)
    else if c = ',' then mostAfter verbose least more
    else none

theorem readCount?_nil (verbose : Bool) : readCount? verbose [] = none := by
  simp [readCount?, takeDigits, readNumber?]

theorem mostAfter_eq (verbose : Bool) (least : Nat) (cs : List Char) :
    mostAfter verbose least cs =
      Option.map (fun p => ((p.1, p.2.1), p.2.2)) (match skip verbose cs with
        | '\x7d' :: rest => some (least, none, rest)
        | rest => do
          let (most, rest) ← readCount? verbose rest
          match rest with
          | '\x7d' :: rest => if least ≤ most then some (least, some most, rest) else none
          | _ => none) := by
  unfold mostAfter
  cases skip verbose cs with
  | nil => simp [readCount?_nil]
  | cons c more =>
    by_cases hc : c = '\x7d'
    · subst hc
      rfl
    · simp only [hc, List.cons.injEq, false_and, imp_false, not_false_eq_true, implies_true,
        if_false, Option.bind_eq_bind, Option.map_bind]
      refine Option.bind_congr fun p _ => ?_
      obtain ⟨most, rest⟩ := p
      cases rest with
      | nil => rfl
      | cons d rest =>
        by_cases hd : d = '\x7d'
        · subst hd
          by_cases hle : least ≤ most
          · simp [hle]
          · simp [hle]
        · simp [hd]

theorem readBounds?_eq (verbose : Bool) (cs : List Char) :
    (readBounds? verbose cs).map (fun p => ((p.1, p.2.1), p.2.2)) =
      (readCount? verbose (skip verbose cs)).bind fun p => boundsAfter verbose p.1 p.2 := by
  unfold readBounds?
  rw [Option.bind_eq_bind, Option.map_bind]
  refine Option.bind_congr fun p _ => ?_
  obtain ⟨least, rest⟩ := p
  cases rest with
  | nil => rfl
  | cons c rest =>
    by_cases hc : c = '\x7d'
    · subst hc
      rfl
    · by_cases hcomma : c = ','
      · subst hcomma
        exact (mostAfter_eq verbose least rest).symm
      · simp [boundsAfter, hc, hcomma]

/-- What follows the mark of a group with a name. -/
def named (scope : Scope) (cs : List Char) : Option ((Opening × Scope) × List Char) :=
  (readName? scope cs).map fun p => ((.group (some scope.groups) [], p.1), p.2)

/-- What follows the flags of a group. -/
def flagged (scope : Scope) (changes : FlagChanges) :
    List Char → Option ((Opening × Scope) × List Char)
  | [] => none
  | c :: rest =>
    let inner : Scope := { scope with verbose := isVerbose scope.verbose changes }
    if c = ':' then some ((.group none changes, inner), rest)
    else if c = ')' ∧ changes ≠ [] then some ((.flags changes, inner), rest)
    else none

/-- What follows the question mark after an opening parenthesis. -/
def marked (scope : Scope) : List Char → Option ((Opening × Scope) × List Char)
  | [] => none
  | c :: more =>
    if c = '=' ∨ c = '!' then none
    else if c = '<' then
      if more.head? = some '=' ∨ more.head? = some '!' then none else named scope more
    else if c = 'P' ∧ more.head? = some '<' then named scope more.tail
    else (readFlags? [] true (c :: more)).bind fun p => flagged scope p.1 p.2

theorem flagged_eq (scope : Scope) (cs : List Char) :
    (readFlags? [] true cs).bind (fun p => flagged scope p.1 p.2) =
      Option.map (fun p => ((p.1, p.2.1), p.2.2)) (match readFlags? [] true cs with
        | some (changes, ':' :: rest) =>
          some (.group none changes,
            { scope with verbose := isVerbose scope.verbose changes }, rest)
        | some (changes, ')' :: rest) =>
          if changes = [] then none
          else some (.flags changes,
            { scope with verbose := isVerbose scope.verbose changes }, rest)
        | _ => none) := by
  cases readFlags? [] true cs with
  | none => rfl
  | some p =>
    obtain ⟨changes, rest⟩ := p
    cases rest with
    | nil => rfl
    | cons c rest =>
      by_cases hcolon : c = ':'
      · subst hcolon
        rfl
      · by_cases hclose : c = ')'
        · subst hclose
          by_cases hchanges : changes = []
          · simp [flagged, hchanges]
          · simp [flagged, hchanges]
        · simp [flagged, hcolon, hclose]

theorem opening?_eq (scope : Scope) (cs : List Char) :
    opening? scope cs =
      match skip scope.verbose cs with
      | [] => some ((.group (some scope.groups) [], scope.numbered), [])
      | c :: more =>
        if c = '?' then marked scope more
        else some ((.group (some scope.groups) [], scope.numbered), c :: more) := by
  unfold opening? readOpening?
  dsimp only
  split
  · next h => simp [h, marked]
  · next h => simp [h, marked]
  · next h => simp [h, marked]
  · next h => simp [h, marked]
  · next h => simp [h, marked, named, Function.comp_def]
  · next more heq hne h =>
    have hlook : ¬(more.head? = some '=' ∨ more.head? = some '!') := by
      rintro (hmore | hmore) <;> obtain ⟨rest, rfl⟩ := List.head?_eq_some_iff.1 hmore
      · exact heq rest rfl
      · exact hne rest rfl
    simp [h, marked, hlook, named, Function.comp_def]
  · next more heq hne hbehind hnot hname hangle h =>
    simp only [h, if_true]
    refine Eq.trans (flagged_eq scope more).symm ?_
    cases more with
    | nil => rfl
    | cons c more =>
      have hmark : ¬(c = '=' ∨ c = '!') := by
        rintro (rfl | rfl)
        · exact heq more rfl
        · exact hne more rfl
      have hangle : c ≠ '<' := fun hc => hangle more (hc ▸ rfl)
      have hname : ¬(c = 'P' ∧ more.head? = some '<') := by
        rintro ⟨rfl, hmore⟩
        obtain ⟨rest, rfl⟩ := List.head?_eq_some_iff.1 hmore
        exact hname rest rfl
      rw [marked, if_neg hmark, if_neg hangle, if_neg hname]
  · next hmark =>
    refine Eq.trans (b := some ((.group (some scope.groups) [], scope.numbered),
      skip scope.verbose cs)) rfl ?_
    cases hs : skip scope.verbose cs with
    | nil => rfl
    | cons c more =>
      have hc : c ≠ '?' := fun hc => hmark more (hc ▸ hs)
      simp only [hc, if_false]

/-- The item of an escape, which is no place. -/
def Escape.item? : Escape → Option Item
  | item found => some found
  | place _ => none

theorem readItem?_escape (verbose : Bool) (cs : List Char) :
    readItem? verbose ('\\' :: cs) =
      (readEscape? verbose cs).bind fun p => p.1.item?.map fun found => (found, p.2) := by
  refine Option.bind_congr fun p _ => ?_
  obtain ⟨escape, rest⟩ := p
  cases escape <;> rfl

theorem readItem?_letter {c : Char} (hc : c ≠ '\\') (cs : List Char) :
    readItem? verbose (c :: cs) = some (.letter ⟨c, false⟩, cs) := by
  rw [readItem?]
  exact hc

/-- What follows the opening bracket of a class and its sign of negation. -/
def openingAfter (verbose negated : Bool) : List Char → (Bool × ClassSet) × List Char
  | [] => ((negated, .empty), [])
  | c :: more =>
    if c = ']' then ((negated, .item (.letter ⟨']', false⟩)), more)
    else ((negated, (readHyphens verbose .empty (c :: more)).1),
      (readHyphens verbose .empty (c :: more)).2)

/-- What follows the opening bracket of a class and the blanks after it. -/
def openedAfter (verbose : Bool) : List Char → (Bool × ClassSet) × List Char
  | [] => openingAfter verbose false []
  | c :: more =>
    if c = '^' then openingAfter verbose true (skip verbose more)
    else openingAfter verbose false (c :: more)

theorem openingAfter_eq (verbose negated : Bool) (cs : List Char) :
    openingAfter verbose negated cs =
      if cs.head? = some ']' then ((negated, .item (.letter ⟨']', false⟩)), cs.tail)
      else ((negated, (readHyphens verbose .empty cs).1), (readHyphens verbose .empty cs).2) := by
  cases cs with
  | nil => simp [openingAfter, readHyphens]
  | cons c more => simp [openingAfter]

theorem opened_eq (verbose : Bool) (cs : List Char) :
    opened verbose cs = openedAfter verbose (skip verbose cs) := by
  unfold opened readOpening
  dsimp only
  cases hs : skip verbose cs with
  | nil => simp [openedAfter, openingAfter, readHyphens]
  | cons c more =>
    by_cases hc : c = '^'
    · subst hc
      simp only [List.head?_cons, decide_true, if_true, List.tail_cons, openedAfter,
        openingAfter_eq]
      split <;> rfl
    · simp only [List.head?_cons, Option.some.injEq, hc, decide_false,
        if_false, openedAfter, openingAfter_eq]
      split <;> rfl

/-- A named class of ASCII after its colon and its sign of negation. -/
def posixAfter (negated : Bool) (cs : List Char) : Option (ClassSet × List Char) :=
  match cs.dropWhile (· ≠ ':') with
  | ':' :: ']' :: rest =>
    (CharSet.posix? (String.ofList (cs.takeWhile (· ≠ ':')))).map fun set =>
      (.posix set negated, rest)
  | _ => none

/-- Whether a class is negated tells where its name starts, and nothing else. -/
theorem readPosix?_colon (more : List Char) :
    readPosix? (':' :: more) =
      posixAfter (more.head? = some '^') (if more.head? = some '^' then more.tail else more) :=
  rfl

theorem readPosix?_eq (cs : List Char) :
    readPosix? cs =
      match cs with
      | [] => none
      | c :: more =>
        if c = ':' then
          if more.head? = some '^' then posixAfter true more.tail else posixAfter false more
        else none := by
  cases cs with
  | nil => rfl
  | cons c more =>
    by_cases hc : c = ':'
    · subst hc
      rw [readPosix?_colon]
      by_cases h : more.head? = some '^' <;> simp [h]
    · rw [readPosix?.eq_2 _ fun more h => hc (List.cons.inj h).1]
      simp only [hc, if_false]

theorem readMark?_brace {mark : Char} (hmark : mark ≠ '*' ∧ mark ≠ '+' ∧ mark ≠ '?')
    (cs : List Char) :
    readMark? verbose mark cs =
      ((readCount? verbose (skip verbose cs)).bind fun p => boundsAfter verbose p.1 p.2).map
        fun p => (p.1, skip verbose p.2) := by
  obtain ⟨hstar, hplus, hquestion⟩ := hmark
  rw [← readBounds?_eq, readMark?, if_neg hstar, if_neg hplus, if_neg hquestion, Option.map_map]
  rfl

/-- The pattern of an escape. -/
def Escape.pattern : Escape → Pattern
  | item found => .item found
  | place sign => .place sign

/-- A part that is written with one character. -/
def plainAtom? (c : Char) : Option Pattern :=
  if c = '.' then some .dot
  else if c = '^' then some (.place .caret)
  else if c = '$' then some (.place .dollar)
  else if isMark c then none
  else some (.item (.letter ⟨c, false⟩))

theorem readAtom?_eq (verbose : Bool) (c : Char) (cs : List Char) :
    readAtom? verbose (c :: cs) =
      if c = '[' then (bracket? verbose cs).map fun p => (.bracket p.1.1 p.1.2, p.2)
      else if c = '\\' then (readEscape? verbose cs).map fun p => (p.1.pattern, p.2)
      else (plainAtom? c).map fun atom => (atom, cs) := by
  unfold readAtom?
  dsimp only
  split
  · simp [readBracket, bracket?, opened, items, Function.comp_def]
  · rw [if_neg (by decide), if_pos rfl]
    refine congrArg (Option.map · _) (funext fun p => ?_)
    obtain ⟨escape, rest⟩ := p
    cases escape <;> rfl
  · rfl
  · rfl
  · rfl
  · next hopen hescape hdot hcaret hdollar =>
    rw [if_neg hopen, if_neg hescape, plainAtom?, if_neg hdot, if_neg hcaret, if_neg hdollar]
    simp only [isMark, Bool.or_eq_true, decide_eq_true_eq, or_assoc]
    split <;> rfl

end Pattern

end Axial
