import Axial.Regex.Bracket

/-!
# Reading patterns

A pattern is a row of alternatives, an alternative a row of parts, and a part an atom with the
repetitions that follow it. An atom is a character, an escape, a class, a place, or a group with a
pattern inside.

* `Pattern.readAlternatives` : the pattern up to the end of its group.
* `Pattern.parse?` : a whole text.
-/

namespace Axial

namespace Pattern

/-! ### Repetitions -/

/-- A row of decimal digits after those read so far, and the text after it. -/
def takeDigits (verbose : Bool) (digits : List Char) : List Char → List Char × List Char
  | [] => (digits, [])
  | c :: cs =>
    if c.isDigit then takeDigits verbose (digits ++ [c]) (skip verbose cs) else (digits, c :: cs)
termination_by cs => cs.length
decreasing_by exact Nat.lt_succ_of_le (length_skip verbose cs)

/-- A count, with the blanks around it. It is less than two to the power of 32. -/
def readCount? (verbose : Bool) (cs : List Char) : Option (Nat × List Char) :=
  let (digits, rest) := takeDigits verbose [] (cs.dropWhile Text.isBlank)
  (readNumber? 10 digits).bind fun n =>
    if n < 2 ^ 32 then some (n, rest.dropWhile Text.isBlank) else none

/-- The bounds of a repetition after the opening brace. -/
def readBounds? (verbose : Bool) (cs : List Char) : Option (Nat × Option Nat × List Char) := do
  let (least, rest) ← readCount? verbose (skip verbose cs)
  match rest with
  | '\x7d' :: rest => some (least, some least, rest)
  | ',' :: rest =>
    match skip verbose rest with
    | '\x7d' :: rest => some (least, none, rest)
    | rest => do
      let (most, rest) ← readCount? verbose rest
      match rest with
      | '\x7d' :: rest => if least ≤ most then some (least, some most, rest) else none
      | _ => none
  | _ => none

/-- The mark of a repetition that prefers few times, if there is one. -/
def readGreed : List Char → Bool × List Char
  | '?' :: cs => (false, cs)
  | cs => (true, cs)

theorem length_takeDigits (verbose : Bool) (digits cs : List Char) :
    (takeDigits verbose digits cs).2.length ≤ cs.length := by
  fun_induction takeDigits verbose digits cs with
  | case1 => simp
  | case2 _ c cs _ ih => exact Nat.le_succ_of_le (Nat.le_trans ih (length_skip verbose cs))
  | case3 => simp

theorem length_readCount? {verbose : Bool} {cs rest : List Char} {n : Nat}
    (h : readCount? verbose cs = some (n, rest)) : rest.length ≤ cs.length := by
  simp only [readCount?, Option.bind_eq_some_iff, Option.ite_none_right_eq_some,
    Option.some.injEq, Prod.mk.injEq] at h
  obtain ⟨_, _, _, _, rfl⟩ := h
  have h₁ := (List.dropWhile_suffix (l := cs) Text.isBlank).length_le
  have h₂ := length_takeDigits verbose [] (cs.dropWhile Text.isBlank)
  have h₃ := (List.dropWhile_suffix
    (l := (takeDigits verbose [] (cs.dropWhile Text.isBlank)).2) Text.isBlank).length_le
  omega

theorem length_readBounds? {verbose : Bool} {cs rest : List Char} {least : Nat}
    {most : Option Nat} (h : readBounds? verbose cs = some (least, most, rest)) :
    rest.length ≤ cs.length := by
  have hskip := length_skip verbose cs
  simp only [readBounds?, Option.bind_eq_bind, Option.bind_eq_some_iff, Prod.exists] at h
  obtain ⟨_, rest₁, h₁, h⟩ := h
  have h₁ := length_readCount? h₁
  split at h
  · simp only [Option.some.injEq, Prod.mk.injEq] at h
    simp only [h.2.2, List.length_cons] at h₁
    omega
  · rename_i rest₂ _
    have h₂ := length_skip verbose rest₂
    simp only [List.length_cons] at h₁
    split at h
    · rename_i hs
      simp only [Option.some.injEq, Prod.mk.injEq] at h
      simp only [hs, h.2.2, List.length_cons] at h₂
      omega
    · simp only [Option.bind_eq_some_iff, Prod.exists] at h
      obtain ⟨_, _, h₃, h⟩ := h
      have h₃ := length_readCount? h₃
      split at h
      · simp only [Option.ite_none_right_eq_some, Option.some.injEq, Prod.mk.injEq] at h
        simp only [h.2.2.2, List.length_cons] at h₃
        omega
      · simp at h
  · simp at h

theorem length_readGreed (cs : List Char) : (readGreed cs).2.length ≤ cs.length := by
  unfold readGreed
  split <;> simp

/-- Apply the repetitions at the start of a text to a pattern. -/
def readRepetitions (verbose : Bool) (body : Pattern) (cs : List Char) :
    Option (Pattern × { rest : List Char // rest.length ≤ cs.length }) :=
  match h : skip verbose cs with
  | '*' :: more =>
    (readRepetitions verbose (.repetition body 0 none (readGreed more).1) (readGreed more).2).map
      fun (pattern, rest) => (pattern, ⟨rest.1, by
        have := length_skip verbose cs; have := length_readGreed more; grind⟩)
  | '+' :: more =>
    (readRepetitions verbose (.repetition body 1 none (readGreed more).1) (readGreed more).2).map
      fun (pattern, rest) => (pattern, ⟨rest.1, by
        have := length_skip verbose cs; have := length_readGreed more; grind⟩)
  | '?' :: more =>
    (readRepetitions verbose (.repetition body 0 (some 1) (readGreed more).1)
      (readGreed more).2).map fun (pattern, rest) => (pattern, ⟨rest.1, by
        have := length_skip verbose cs; have := length_readGreed more; grind⟩)
  | '\x7b' :: more =>
    match hb : readBounds? verbose more with
    | none => none
    | some (least, most, after) =>
      let greed := readGreed (skip verbose after)
      (readRepetitions verbose (.repetition body least most greed.1) greed.2).map
        fun (pattern, rest) => (pattern, ⟨rest.1, by
          have := length_skip verbose cs; have := length_readBounds? hb
          have := length_skip verbose after
          have := length_readGreed (skip verbose after); grind⟩)
  | more => some (body, ⟨more, h ▸ length_skip verbose cs⟩)
termination_by cs.length
decreasing_by
  all_goals
    have := length_skip verbose cs
    try have := length_readGreed more
    try have := length_readBounds? hb
    try have := length_skip verbose after
    try have := length_readGreed (skip verbose after)
    grind

/-! ### Groups -/

/-- What is known at a place of a pattern: whether it is verbose there, the names of the groups so
far, and how many of them have a number. -/
structure Scope where
  verbose : Bool := false
  names : List (List Char) := []
  groups : Nat := 0

/-- Letters that came after those of `Unicode.alphabetic`. A name may hold them. -/
def newerLetters : CharSet :=
  Unicode.readRanges
    ["88F C5C CDC A7CE-A7CF A7D2 A7D4 A7F1 10940-10959 10EC5-10EC7 10EFA-10EFB 11B60-11B67",
     "11DB0-11DDB 16EA0-16EB8 16EBB-16ED3 16FF2-16FF6 187F8-187FF 18D09-18D1E 18D80-18DF2",
     "1E6C0-1E6DE 1E6E0-1E6F5 1E6FE-1E6FF 2B73A-2B73F 2CEA2-2CEAD 323B0-33479"]

/-- Numbers that came after those of `Unicode.number`. -/
def newerNumbers : CharSet :=
  Unicode.readRanges ["11DE0-11DE9 16FF4-16FF6"]

/-- Whether a character may start a name. -/
def startsName (c : Char) : Bool :=
  c = '_' || Unicode.alphabetic.mem c || newerLetters.mem c

/-- Whether a character may go on with a name. -/
def continuesName (c : Char) : Bool :=
  startsName c || c = '.' || c = '[' || c = ']' || Unicode.number.mem c || newerNumbers.mem c

/-- A scope in which one more group has a number. -/
def Scope.numbered (scope : Scope) : Scope :=
  { scope with groups := scope.groups + 1 }

/-- What follows the name of a group, which is new. -/
def readName? (scope : Scope) (cs : List Char) : Option (Scope × List Char) :=
  let name := cs.takeWhile continuesName
  match cs.dropWhile continuesName with
  | '>' :: rest =>
    if name.head?.any startsName ∧ name ∉ scope.names then
      some ({ scope.numbered with names := name :: scope.names }, rest)
    else none
  | _ => none

/-- What an opening parenthesis opens. -/
inductive Opening where
  /-- A group, with its number and the flags that it changes. -/
  | group (number : Option Nat) (changes : FlagChanges)
  /-- No group: flags hold from here on. -/
  | flags (changes : FlagChanges)

/-- What follows an opening parenthesis: a name, flags, or neither. No group looks around. -/
def readOpening? (scope : Scope) (cs : List Char) : Option (Opening × Scope × List Char) :=
  let named (rest : List Char) : Option (Opening × Scope × List Char) :=
    (readName? scope rest).map fun (inner, rest) =>
      (.group (some scope.groups) [], inner, rest)
  match skip scope.verbose cs with
  | '?' :: '=' :: _ => none
  | '?' :: '!' :: _ => none
  | '?' :: '<' :: '=' :: _ => none
  | '?' :: '<' :: '!' :: _ => none
  | '?' :: 'P' :: '<' :: rest => named rest
  | '?' :: '<' :: rest => named rest
  | '?' :: rest =>
    match readFlags? [] true rest with
    | some (changes, ':' :: rest) =>
      some (.group none changes, { scope with verbose := isVerbose scope.verbose changes }, rest)
    | some (changes, ')' :: rest) =>
      if changes = [] then none
      else some (.flags changes, { scope with verbose := isVerbose scope.verbose changes }, rest)
    | _ => none
  | rest => some (.group (some scope.groups) [], scope.numbered, rest)

theorem length_readName? {scope scope' : Scope} {cs rest : List Char}
    (h : readName? scope cs = some (scope', rest)) : rest.length ≤ cs.length := by
  have hlen := (List.dropWhile_suffix (l := cs) continuesName).length_le
  simp only [readName?] at h
  split at h
  · rename_i hd
    simp only [Option.ite_none_right_eq_some, Option.some.injEq, Prod.mk.injEq] at h
    rw [hd, h.2.2, List.length_cons] at hlen
    omega
  · simp at h

theorem length_readOpening? {scope scope' : Scope} {opening : Opening} {cs rest : List Char}
    (h : readOpening? scope cs = some (opening, scope', rest)) : rest.length ≤ cs.length := by
  have hskip := length_skip scope.verbose cs
  unfold readOpening? at h
  dsimp only at h
  split at h
  case h_1 | h_2 | h_3 | h_4 => simp at h
  case h_5 | h_6 =>
    rename_i hs
    simp only [Option.map_eq_some_iff, Prod.mk.injEq, Prod.exists] at h
    obtain ⟨_, _, h, _, _, rfl⟩ := h
    have := length_readName? h
    simp only [hs, List.length_cons] at hskip
    omega
  case h_7 =>
    rename_i hs
    split at h
    · rename_i hf
      have := length_readFlags? hf
      simp only [Option.some.injEq, Prod.mk.injEq] at h
      simp only [hs, List.length_cons] at hskip
      simp only [h.2.2, List.length_cons] at this
      omega
    · rename_i hf
      have := length_readFlags? hf
      simp only [Option.ite_none_left_eq_some, Option.some.injEq, Prod.mk.injEq] at h
      simp only [hs, List.length_cons] at hskip
      simp only [h.2.2.2, List.length_cons] at this
      omega
    · simp at h
  case h_8 =>
    simp only [Option.some.injEq, Prod.mk.injEq] at h
    rw [← h.2.2]
    exact hskip

/-! ### Patterns -/

/-- An atom that is no group, and the text after it. -/
def readAtom? (verbose : Bool) : List Char → Option (Pattern × List Char)
  | [] => none
  | c :: cs =>
    match c with
    | '[' => (readBracket verbose cs).map fun (pattern, rest) => (pattern, rest.1)
    | '\\' => (readEscape? verbose cs).map fun (escape, rest) =>
      match escape with
      | .item found => (.item found, rest)
      | .place sign => (.place sign, rest)
    | '.' => some (.dot, cs)
    | '^' => some (.place .caret, cs)
    | '$' => some (.place .dollar, cs)
    | _ =>
      if c = '*' ∨ c = '+' ∨ c = '?' ∨ c = '\x7b' then none
      else some (.item (.letter ⟨c, false⟩), cs)

theorem length_readAtom? {verbose : Bool} {cs rest : List Char} {pattern : Pattern}
    (h : readAtom? verbose cs = some (pattern, rest)) : rest.length < cs.length := by
  unfold readAtom? at h
  split at h
  · simp at h
  rename_i c cs
  simp only [List.length_cons]
  apply Nat.lt_succ_of_le
  split at h
  · simp only [Option.map_eq_some_iff, Prod.mk.injEq, Prod.exists] at h
    obtain ⟨_, rest, _, _, rfl⟩ := h
    exact Nat.le_of_lt rest.2
  · simp only [Option.map_eq_some_iff, Prod.exists] at h
    obtain ⟨escape, rest, h, he⟩ := h
    have := length_readEscape? h
    grind
  all_goals grind

/-- The pattern up to the end of its group, which is left in place. `earlier` are the alternatives
before, and `front` is what the last of them holds so far. -/
def readAlternatives (scope : Scope) (earlier : Option Pattern) (front : Pattern)
    (cs : List Char) :
    Option (Pattern × Scope × { rest : List Char // rest.length ≤ cs.length }) :=
  match h : skip scope.verbose cs with
  | [] => some (.orElse earlier front, scope, ⟨[], Nat.zero_le _⟩)
  | ')' :: more =>
    some (.orElse earlier front, scope,
      ⟨')' :: more, by have := length_skip scope.verbose cs; grind⟩)
  | '|' :: more =>
    (readAlternatives scope (some (.orElse earlier front)) .empty more).map
      fun (pattern, last, rest) =>
        (pattern, last, ⟨rest.1, by have := length_skip scope.verbose cs; grind⟩)
  | '(' :: more =>
    match ho : readOpening? scope more with
    | none => none
    | some (.flags changes, inner, after) =>
      (readAlternatives inner earlier (front.push (.flags changes)) after).map
        fun (pattern, last, rest) => (pattern, last, ⟨rest.1, by
          have := length_skip scope.verbose cs; have := length_readOpening? ho; grind⟩)
    | some (.group number changes, inner, after) =>
      match readAlternatives inner none .empty after with
      | none => none
      | some (_, _, ⟨[], _⟩) => none
      | some (body, inner, ⟨_ :: closed, _⟩) =>
        match readRepetitions scope.verbose (.group number changes body) closed with
        | none => none
        | some (part, next) =>
          (readAlternatives { inner with verbose := scope.verbose } earlier (front.push part)
            next.1).map fun (pattern, last, rest) => (pattern, last, ⟨rest.1, by
              have := length_skip scope.verbose cs; have := length_readOpening? ho; grind⟩)
  | more =>
    match ha : readAtom? scope.verbose more with
    | none => none
    | some (atom, after) =>
      match readRepetitions scope.verbose atom after with
      | none => none
      | some (part, next) =>
        (readAlternatives scope earlier (front.push part) next.1).map
          fun (pattern, last, rest) => (pattern, last, ⟨rest.1, by
            have := length_skip scope.verbose cs; have := length_readAtom? ha; grind⟩)
termination_by cs.length
decreasing_by
  all_goals
    have := length_skip scope.verbose cs
    try have := length_readOpening? ho
    try have := length_readAtom? ha
    grind

/-- The pattern that a text spells. -/
def parse? (text : String) : Option Pattern :=
  match readAlternatives {} none .empty text.toList with
  | some (pattern, _, ⟨[], _⟩) => some pattern
  | _ => none

end Pattern

end Axial
