import Axial.Regex.Escape

/-!
# Classes in brackets

A class in brackets holds characters, ranges, escapes, named classes of ASCII and further
brackets. Two classes side by side are united; `&&`, `--` and `~~` intersect, subtract, and take
what is in one class only, from left to right.

* `Pattern.readBracket` : a class after its opening bracket.
-/

namespace Axial

namespace Pattern

/-! ### Items and ranges -/

/-- A character or an escape. No escape stands for a place here. -/
def readItem? (verbose : Bool) : List Char → Option (Item × List Char)
  | '\\' :: cs => (readEscape? verbose cs).bind fun (escape, rest) =>
    match escape with
    | .item found => some (found, rest)
    | .place _ => none
  | c :: cs => some (.letter ⟨c, false⟩, cs)
  | [] => none

/-- The range between two items, which are characters in order. -/
def range? : Item → Item → Option ClassSet
  | .letter a, .letter b => if a.char ≤ b.char then some (.range a b) else none
  | _, _ => none

/-- The character that decides what a hyphen means, given what comes after it: the next one that is
no blank. A verbose pattern has one `#` passed over, too, and what comes after it counts. -/
def decider? (verbose : Bool) (cs : List Char) : Option Char :=
  if verbose then
    match cs.dropWhile Text.isBlank with
    | '#' :: more => (more.dropWhile Text.isBlank).head? <|> cs.head?
    | rest => rest.head? <|> cs.head?
  else cs.head?

/-- An item, or a range if a hyphen and another item follow. -/
def readRange? (verbose : Bool) (cs : List Char) : Option (ClassSet × List Char) := do
  let (first, rest) ← readItem? verbose cs
  match skip verbose rest with
  | [] => none
  | '-' :: more =>
    if decider? verbose more = some ']' ∨ decider? verbose more = some '-' then
      return (.item first, '-' :: more)
    else do
      let (last, rest) ← readItem? verbose (skip verbose more)
      return (← range? first last, rest)
  | c :: more => return (.item first, c :: more)

/-- A named class of ASCII after its opening bracket. -/
def readPosix? : List Char → Option (ClassSet × List Char)
  | ':' :: cs =>
    let negated := cs.head? = some '^'
    let cs := if negated then cs.tail else cs
    match cs.dropWhile (· ≠ ':') with
    | ':' :: ']' :: rest =>
      (CharSet.posix? (String.ofList (cs.takeWhile (· ≠ ':')))).map fun set =>
        (.posix set negated, rest)
    | _ => none
  | _ => none

theorem length_readItem? {verbose : Bool} {cs rest : List Char} {found : Item}
    (h : readItem? verbose cs = some (found, rest)) : rest.length < cs.length := by
  unfold readItem? at h
  split at h
  · simp only [Option.bind_eq_some_iff, Prod.exists] at h
    obtain ⟨_, _, he, h⟩ := h
    have := length_readEscape? he
    split at h
    · simp only [Option.some.injEq, Prod.mk.injEq] at h
      rw [← h.2, List.length_cons]
      omega
    · simp at h
  · simp only [Option.some.injEq, Prod.mk.injEq] at h
    simp [h.2]
  · simp at h

theorem length_readRange? {verbose : Bool} {cs rest : List Char} {set : ClassSet}
    (h : readRange? verbose cs = some (set, rest)) : rest.length < cs.length := by
  simp only [readRange?, Option.bind_eq_bind, Option.bind_eq_some_iff, Prod.exists] at h
  obtain ⟨first, rest₁, h₁, h⟩ := h
  have h₁ := length_readItem? h₁
  have h₂ := length_skip verbose rest₁
  split at h
  · simp at h
  · rename_i more hs
    rw [hs] at h₂
    split at h
    · simp only [Option.pure_def, Option.some.injEq, Prod.mk.injEq] at h
      rw [← h.2]
      omega
    · simp only [Option.bind_eq_some_iff, Prod.exists, Option.pure_def, Option.some.injEq,
        Prod.mk.injEq] at h
      obtain ⟨_, _, h, _, _, _, rfl⟩ := h
      have := length_readItem? h
      have := length_skip verbose more
      simp only [List.length_cons] at h₂
      omega
  · rename_i hs
    rw [hs] at h₂
    simp only [Option.pure_def, Option.some.injEq, Prod.mk.injEq] at h
    rw [← h.2]
    omega

theorem length_readPosix? {cs rest : List Char} {set : ClassSet}
    (h : readPosix? cs = some (set, rest)) : rest.length ≤ cs.length := by
  unfold readPosix? at h
  split at h
  · rename_i cs
    simp only at h
    split at h
    · rename_i hd
      simp only [Option.map_eq_some_iff, Prod.mk.injEq] at h
      obtain ⟨_, _, _, rfl⟩ := h
      have hlen := (List.dropWhile_suffix (l := if cs.head? = some '^' then cs.tail else cs)
        (· ≠ ':')).length_le
      have htail : (if cs.head? = some '^' then cs.tail else cs).length ≤ cs.length := by
        split <;> simp
      rw [hd] at hlen
      simp only [List.length_cons] at hlen ⊢
      omega
    · simp at h
  · simp at h

/-! ### Openings -/

/-- The hyphens that a class starts with, which stand for themselves. -/
def readHyphens (verbose : Bool) (sofar : ClassSet) : List Char → ClassSet × List Char
  | [] => (sofar, [])
  | c :: cs =>
    if c = '-' then
      readHyphens verbose (sofar.push (.item (.letter ⟨'-', false⟩))) (skip verbose cs)
    else (sofar, c :: cs)
termination_by cs => cs.length
decreasing_by exact Nat.lt_succ_of_le (length_skip verbose cs)

theorem length_readHyphens (verbose : Bool) (sofar : ClassSet) (cs : List Char) :
    (readHyphens verbose sofar cs).2.length ≤ cs.length := by
  fun_induction readHyphens verbose sofar cs with
  | case1 => exact Nat.le_refl _
  | case2 _ cs ih => exact Nat.le_succ_of_le (Nat.le_trans ih (length_skip verbose cs))
  | case3 => exact Nat.le_refl _

/-- What follows the opening bracket of a class: whether it is negated, and the hyphens or the
closing bracket that it starts with and that stand for themselves. -/
def readOpening (verbose : Bool) (cs : List Char) : Bool × ClassSet × List Char :=
  let cs := skip verbose cs
  let negated := cs.head? = some '^'
  let cs := if negated then skip verbose cs.tail else cs
  if cs.head? = some ']' then (negated, .item (.letter ⟨']', false⟩), cs.tail)
  else (negated, readHyphens verbose .empty cs)

theorem length_readOpening (verbose : Bool) (cs : List Char) :
    (readOpening verbose cs).2.2.length ≤ cs.length := by
  have h₁ := length_skip verbose cs
  have h₂ := length_skip verbose (skip verbose cs).tail
  have h₃ : (skip verbose cs).tail.length ≤ (skip verbose cs).length := by simp
  have h₄ : (if (skip verbose cs).head? = some '^' then skip verbose (skip verbose cs).tail
      else skip verbose cs).length ≤ cs.length := by
    split <;> omega
  unfold readOpening
  dsimp only
  generalize (if (skip verbose cs).head? = some '^' then skip verbose (skip verbose cs).tail
    else skip verbose cs) = opened at h₄ ⊢
  split
  · exact Nat.le_trans (by simp) h₄
  · exact Nat.le_trans (length_readHyphens verbose .empty opened) h₄

/-! ### Brackets -/

/-- An operation with its left side, which waits for its right side. -/
abbrev Pending := Option (SetOperation × ClassSet)

/-- The class of a pending operation and its right side. -/
def Pending.finish (pending : Pending) (right : ClassSet) : ClassSet :=
  match pending with
  | none => right
  | some (operation, left) => .operation operation left right

/-- The items of a class up to its closing bracket; `sofar` is the union of the items before. -/
def readItems (verbose : Bool) (sofar : ClassSet) (pending : Pending) (cs : List Char) :
    Option (ClassSet × { rest : List Char // rest.length < cs.length }) :=
  match h : skip verbose cs with
  | [] => none
  | ']' :: rest =>
    some (pending.finish sofar, ⟨rest, by have := length_skip verbose cs; grind⟩)
  | '&' :: '&' :: more =>
    (readItems verbose .empty (some (.intersection, pending.finish sofar)) more).map
      fun (set, rest) => (set, ⟨rest.1, by have := length_skip verbose cs; grind⟩)
  | '-' :: '-' :: more =>
    (readItems verbose .empty (some (.difference, pending.finish sofar)) more).map
      fun (set, rest) => (set, ⟨rest.1, by have := length_skip verbose cs; grind⟩)
  | '~' :: '~' :: more =>
    (readItems verbose .empty (some (.symmetricDifference, pending.finish sofar)) more).map
      fun (set, rest) => (set, ⟨rest.1, by have := length_skip verbose cs; grind⟩)
  | '[' :: more =>
    match hp : readPosix? more with
    | some (set, after) =>
      (readItems verbose (sofar.push set) pending after).map fun (set, rest) =>
        (set, ⟨rest.1, by have := length_skip verbose cs; have := length_readPosix? hp; grind⟩)
    | none =>
      let opening := readOpening verbose more
      (readItems verbose opening.2.1 none opening.2.2).bind fun (inner, after) =>
        (readItems verbose (sofar.push (.bracket opening.1 inner)) pending after.1).map
          fun (set, rest) => (set, ⟨rest.1, by
            have := length_skip verbose cs; have := length_readOpening verbose more; grind⟩)
  | more =>
    match hr : readRange? verbose more with
    | none => none
    | some (set, after) =>
      (readItems verbose (sofar.push set) pending after).map fun (set, rest) =>
        (set, ⟨rest.1, by have := length_skip verbose cs; have := length_readRange? hr; grind⟩)
termination_by cs.length
decreasing_by
  all_goals
    have := length_skip verbose cs
    try have := length_readOpening verbose more
    try have := length_readPosix? hp
    try have := length_readRange? hr
    grind

/-- A class after its opening bracket. -/
def readBracket (verbose : Bool) (cs : List Char) :
    Option (Pattern × { rest : List Char // rest.length < cs.length }) :=
  let opening := readOpening verbose cs
  (readItems verbose opening.2.1 none opening.2.2).map fun (inner, rest) =>
    (.bracket opening.1 inner, ⟨rest.1, by have := length_readOpening verbose cs; grind⟩)

end Pattern

end Axial
