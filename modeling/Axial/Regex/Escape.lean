import Axial.Regex.Pattern
import Axial.Text.Blank

/-!
# Flags and escapes of patterns

The smallest parts of the notation.

* `Pattern.readFlags?` : what the letters of a flag group ask for.
* `Pattern.skip` : blanks and comments, which a verbose pattern may hold anywhere.
* `Pattern.readEscape?` : a backslash with what belongs to it stands for a character, a class or a
  place.
-/

namespace Axial

namespace Pattern

/-! ### Flags -/

/-- The flag of a letter. -/
def flag? : Char → Option Flag
  | 'i' => some .ignoreCase
  | 'm' => some .multiLine
  | 's' => some .dotAll
  | 'U' => some .swapGreed
  | 'u' => some .unicode
  | 'R' => some .carriageReturn
  | 'x' => some .verbose
  | _ => none

/-- Read the letters of flags up to a `:` or a `)`, which is returned with the rest. Letters after
a `-` are cleared. No letter comes twice, and a `-` is followed by one. -/
def readFlags? (seen : List Char) (value : Bool) :
    List Char → Option (FlagChanges × List Char)
  | [] => none
  | c :: cs =>
    if c = ':' ∨ c = ')' then
      if seen.head? = some '-' then none else some ([], c :: cs)
    else if c ∈ seen then none
    else if c = '-' then readFlags? ('-' :: seen) false cs
    else (flag? c).bind fun flag =>
      (readFlags? (c :: seen) value cs).map fun (changes, rest) => ((flag, value) :: changes, rest)

theorem length_readFlags? {seen : List Char} {value : Bool} {cs rest : List Char}
    {changes : FlagChanges} (h : readFlags? seen value cs = some (changes, rest)) :
    rest.length ≤ cs.length := by
  induction cs generalizing seen value changes with
  | nil => simp [readFlags?] at h
  | cons c cs ih =>
    unfold readFlags? at h
    split at h
    · split at h
      · simp at h
      · simp only [Option.some.injEq, Prod.mk.injEq] at h
        simp [← h.2]
    · split at h
      · simp at h
      · split at h
        · exact Nat.le_succ_of_le (ih h)
        · simp only [Option.bind_eq_some_iff, Option.map_eq_some_iff, Prod.mk.injEq,
            Prod.exists] at h
          obtain ⟨_, _, _, _, h, _, rfl⟩ := h
          exact Nat.le_succ_of_le (ih h)

/-- Whether a pattern is verbose after some changes. -/
def isVerbose (verbose : Bool) (changes : FlagChanges) : Bool :=
  changes.foldl (fun verbose (flag, value) => if flag = .verbose then value else verbose) verbose

/-! ### Blanks -/

/-- Drop the blanks and comments that a verbose pattern starts with. -/
def skipLayout (inComment : Bool) : List Char → List Char
  | [] => []
  | c :: cs =>
    if inComment then skipLayout (c ≠ '\n') cs
    else if c = '#' then skipLayout true cs
    else if Text.isBlank c then skipLayout false cs
    else c :: cs

/-- Drop what may stand between two parts of a pattern. -/
def skip (verbose : Bool) (cs : List Char) : List Char :=
  if verbose then skipLayout false cs else cs

theorem length_skipLayout (inComment : Bool) (cs : List Char) :
    (skipLayout inComment cs).length ≤ cs.length := by
  fun_induction skipLayout inComment cs <;> simp_all <;> omega

theorem length_skip (verbose : Bool) (cs : List Char) :
    (skip verbose cs).length ≤ cs.length := by
  unfold skip
  split
  · exact length_skipLayout _ _
  · exact Nat.le_refl _

/-- Read up to a closing brace. What may stand between parts is skipped before every character. -/
def readBraced? (verbose : Bool) (cs : List Char) :
    Option (List Char × { rest : List Char // rest.length < cs.length }) :=
  match h : skip verbose cs with
  | [] => none
  | c :: more =>
    have hmore : more.length < cs.length := by
      have := length_skip verbose cs
      rw [h, List.length_cons] at this
      omega
    if c = '\x7d' then some ([], ⟨more, hmore⟩)
    else (readBraced? verbose more).map fun (name, rest) =>
      (c :: name, ⟨rest.1, Nat.lt_trans rest.2 hmore⟩)
termination_by cs.length

/-! ### Numbers -/

/-- The value of a digit of a base up to 16. -/
def digit? (base : Nat) (c : Char) : Option Nat :=
  let value? :=
    if c.isDigit then some (c.toNat - '0'.toNat)
    else if 'a' ≤ c ∧ c ≤ 'f' then some (c.toNat - 'a'.toNat + 10)
    else if 'A' ≤ c ∧ c ≤ 'F' then some (c.toNat - 'A'.toNat + 10)
    else none
  value?.filter (· < base)

/-- The value of a row of digits of a base up to 16. -/
def readNumber? (base : Nat) (digits : List Char) : Option Nat :=
  if digits = [] then none
  else digits.foldlM (fun n c => (digit? base c).map (base * n + ·)) 0

/-- The character of a code point in digits of base 16. -/
def scalar? (digits : List Char) : Option Char :=
  (readNumber? 16 digits).bind fun n => if n.isValidChar then some (Char.ofNat n) else none

/-- Read a number of characters, and skip after each what may stand between parts. -/
def readFixed? (verbose : Bool) : Nat → List Char → Option (List Char × List Char)
  | 0, cs => some ([], cs)
  | _ + 1, [] => none
  | n + 1, c :: cs =>
    (readFixed? verbose n (skip verbose cs)).map fun (digits, rest) => (c :: digits, rest)

theorem length_readFixed? {verbose : Bool} {n : Nat} {cs digits rest : List Char}
    (h : readFixed? verbose n cs = some (digits, rest)) : rest.length ≤ cs.length := by
  induction n generalizing cs digits with
  | zero =>
    simp only [readFixed?, Option.some.injEq, Prod.mk.injEq] at h
    simp [h.2]
  | succ n ih =>
    cases cs with
    | nil => simp [readFixed?] at h
    | cons c cs =>
      simp only [readFixed?, Option.map_eq_some_iff, Prod.mk.injEq, Prod.exists] at h
      obtain ⟨_, _, h, _, rfl⟩ := h
      exact Nat.le_succ_of_le (Nat.le_trans (ih h) (length_skip verbose cs))

/-- The character of hexadecimal digits: a fixed number of them, or any number in braces. -/
def readHex? (verbose : Bool) (count : Nat) (cs : List Char) : Option (Letter × List Char) :=
  match skip verbose cs with
  | '\x7b' :: more => do
    let (digits, rest) ← readBraced? verbose more
    return (⟨← scalar? digits, false⟩, rest.1)
  | digits => do
    let (digits, rest) ← readFixed? verbose count digits
    return (⟨← scalar? digits, count = 2⟩, rest)

theorem length_readHex? {verbose : Bool} {count : Nat} {cs rest : List Char} {letter : Letter}
    (h : readHex? verbose count cs = some (letter, rest)) : rest.length ≤ cs.length := by
  have hskip := length_skip verbose cs
  unfold readHex? at h
  split at h
  · rename_i hs
    simp only [Option.bind_eq_bind, Option.bind_eq_some_iff, Prod.exists, Option.pure_def,
      Option.some.injEq, Prod.mk.injEq] at h
    obtain ⟨_, inner, _, _, _, _, rfl⟩ := h
    have := inner.2
    simp only [hs, List.length_cons] at hskip
    omega
  · simp only [Option.bind_eq_bind, Option.bind_eq_some_iff, Prod.exists, Option.pure_def,
      Option.some.injEq, Prod.mk.injEq] at h
    obtain ⟨_, _, h, _, _, _, rfl⟩ := h
    exact Nat.le_trans (length_readFixed? h) hskip

/-! ### Escapes -/

/-- What an escape stands for. -/
inductive Escape where
  | item (item : Item)
  | place (sign : PlaceSign)

/-- The sign of a name between braces after a `b`. -/
def boundary? (name : List Char) : Option PlaceSign :=
  match String.ofList name with
  | "start" => some .wordStart
  | "end" => some .wordEnd
  | "start-half" => some .wordStartHalf
  | "end-half" => some .wordEndHalf
  | _ => none

/-- What follows a `b`: a name between braces, or nothing that belongs to it. -/
def readBoundary? (verbose : Bool) (cs : List Char) : Option (PlaceSign × List Char) :=
  match cs with
  | '\x7b' :: more =>
    if (skip verbose more).head?.any fun c => c.isAlpha || c = '-' then do
      let (name, rest) ← readBraced? verbose more
      return (← boundary? name, rest.1)
    else some (.wordBoundary, cs)
  | _ => some (.wordBoundary, cs)

/-- What follows a `p` or, if negated, a `P`: a query between braces, or a name of one letter. -/
def readProperty? (verbose negated : Bool) (cs : List Char) : Option (Item × List Char) :=
  match skip verbose cs with
  | [] => none
  | '\x7b' :: more => do
    let (query, rest) ← readBraced? verbose more
    let (opposite, set) ← CharSet.queried? query
    return (.property set (negated != opposite), rest.1)
  | letter :: rest => (CharSet.named? [letter]).map fun set => (.property set negated, rest)

/-- A letter that a backslash makes a character of layout. -/
def layoutLetter? : Char → Option Char
  | 'a' => some '\x07'
  | 'f' => some '\x0c'
  | 't' => some '\t'
  | 'n' => some '\n'
  | 'r' => some '\r'
  | 'v' => some '\x0b'
  | _ => none

/-- A letter or a bracket that a backslash makes a place. -/
def placeSign? : Char → Option PlaceSign
  | 'A' => some .textStart
  | 'z' => some .textEnd
  | 'B' => some .noWordBoundary
  | '<' => some .wordStart
  | '>' => some .wordEnd
  | _ => none

/-- A letter that a backslash makes a class; in upper case it stands for all other characters. -/
def letterClass? (c : Char) : Option Item :=
  match c.toLower with
  | 'd' => some (.letterClass .digit c.isUpper)
  | 's' => some (.letterClass .blank c.isUpper)
  | 'w' => some (.letterClass .word c.isUpper)
  | _ => none

/-- What a single character after a backslash stands for. One that is neither a letter nor a digit
of ASCII stands for itself. -/
def shortEscape? (c : Char) : Option Escape :=
  (layoutLetter? c).map (fun c => .item (.letter ⟨c, false⟩)) <|>
  (placeSign? c).map .place <|>
  (letterClass? c).map .item <|>
  if c.toNat < 128 ∧ ¬c.isAlphanum then some (.item (.letter ⟨c, false⟩)) else none

/-- An escape after its backslash, and the text after it. -/
def readEscape? (verbose : Bool) : List Char → Option (Escape × List Char)
  | [] => none
  | c :: cs =>
    match c with
    | 'x' => (readHex? verbose 2 cs).map fun (letter, rest) => (.item (.letter letter), rest)
    | 'u' => (readHex? verbose 4 cs).map fun (letter, rest) => (.item (.letter letter), rest)
    | 'U' => (readHex? verbose 8 cs).map fun (letter, rest) => (.item (.letter letter), rest)
    | 'p' => (readProperty? verbose false cs).map fun (found, rest) => (.item found, rest)
    | 'P' => (readProperty? verbose true cs).map fun (found, rest) => (.item found, rest)
    | 'b' => (readBoundary? verbose cs).map fun (sign, rest) => (.place sign, rest)
    | c => (shortEscape? c).map fun escape => (escape, cs)

theorem length_readBoundary? {verbose : Bool} {cs rest : List Char} {sign : PlaceSign}
    (h : readBoundary? verbose cs = some (sign, rest)) : rest.length ≤ cs.length := by
  unfold readBoundary? at h
  split at h
  · split at h
    · simp only [Option.bind_eq_bind, Option.bind_eq_some_iff, Prod.exists, Option.pure_def,
        Option.some.injEq, Prod.mk.injEq] at h
      obtain ⟨_, inner, _, _, _, _, rfl⟩ := h
      exact Nat.le_succ_of_le (Nat.le_of_lt inner.2)
    · simp only [Option.some.injEq, Prod.mk.injEq] at h
      simp [← h.2]
  · simp only [Option.some.injEq, Prod.mk.injEq] at h
    simp [h.2]

theorem length_readProperty? {verbose negated : Bool} {cs rest : List Char} {item : Item}
    (h : readProperty? verbose negated cs = some (item, rest)) : rest.length ≤ cs.length := by
  have hskip := length_skip verbose cs
  unfold readProperty? at h
  split at h
  · simp at h
  · rename_i hs
    simp only [Option.bind_eq_bind, Option.bind_eq_some_iff, Prod.exists, Option.pure_def,
      Option.some.injEq, Prod.mk.injEq] at h
    obtain ⟨_, inner, _, _, _, _, _, rfl⟩ := h
    have := inner.2
    simp only [hs, List.length_cons] at hskip
    omega
  · rename_i hs
    simp only [Option.map_eq_some_iff, Prod.mk.injEq] at h
    obtain ⟨_, _, _, rfl⟩ := h
    simp only [hs, List.length_cons] at hskip
    omega

theorem length_readEscape? {verbose : Bool} {cs rest : List Char} {escape : Escape}
    (h : readEscape? verbose cs = some (escape, rest)) : rest.length < cs.length := by
  unfold readEscape? at h
  split at h
  · simp at h
  · rw [List.length_cons]
    apply Nat.lt_succ_of_le
    split at h <;> simp only [Option.map_eq_some_iff, Prod.mk.injEq, Prod.exists] at h
    case h_1 | h_2 | h_3 =>
      obtain ⟨_, _, h, _, rfl⟩ := h
      exact length_readHex? h
    case h_4 | h_5 =>
      obtain ⟨_, _, h, _, rfl⟩ := h
      exact length_readProperty? h
    case h_6 =>
      obtain ⟨_, _, h, _, rfl⟩ := h
      exact length_readBoundary? h
    case h_7 =>
      obtain ⟨_, _, _, rfl⟩ := h
      exact Nat.le_refl _

end Pattern

end Axial
