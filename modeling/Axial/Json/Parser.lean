import Axial.Json.Basic

/-!
# Reading JSON documents

The grammar of JSON and nothing beyond it: no comments, no commas after the last item, no control
characters inside strings, and only blanks after the document.

* `Json.readString?`, `Json.readNumber?` : strings and numbers at the start of a text.
* `Json.parse?` : the document that a text holds.
-/

namespace Axial

namespace Json

/-- Drop the blanks at the start of a text. -/
def skipBlanks (cs : List Char) : List Char :=
  cs.dropWhile fun c => c = ' ' || c = '\n' || c = '\t' || c = '\r'

theorem length_skipBlanks (cs : List Char) : (skipBlanks cs).length ≤ cs.length :=
  (List.dropWhile_suffix _).length_le

theorem lt_of_skipBlanks {cs rest : List Char} {c : Char} (h : skipBlanks cs = c :: rest) :
    rest.length < cs.length := by
  have := length_skipBlanks cs
  rw [h, List.length_cons] at this
  omega

/-! ### Strings -/

/-- The value of a hexadecimal digit. -/
def hexValue? (c : Char) : Option Nat :=
  if c.isDigit then some (c.toNat - '0'.toNat)
  else if 'a' ≤ c ∧ c ≤ 'f' then some (c.toNat - 'a'.toNat + 10)
  else if 'A' ≤ c ∧ c ≤ 'F' then some (c.toNat - 'A'.toNat + 10)
  else none

/-- The value of four hexadecimal digits. -/
def unit? (a b c d : Char) : Option Nat := do
  return ((← hexValue? a) * 16 + (← hexValue? b)) * 256 + (← hexValue? c) * 16 + (← hexValue? d)

/-- The character of a simple escape. -/
def simpleEscape? : Char → Option Char
  | '"' => some '"'
  | '\\' => some '\\'
  | '/' => some '/'
  | 'b' => some '\x08'
  | 'f' => some '\x0c'
  | 'n' => some '\n'
  | 'r' => some '\r'
  | 't' => some '\t'
  | _ => none

/-- Whether a unit is the first half of a surrogate pair. -/
def isLeading (unit : Nat) : Bool := 0xD800 ≤ unit && unit < 0xDC00

/-- Whether a unit is the second half of a surrogate pair. -/
def isTrailing (unit : Nat) : Bool := 0xDC00 ≤ unit && unit < 0xE000

/-- The pieces of a string up to its closing quote, and the text after it. A piece is a
character, or a unit of an escape in four digits. -/
def readPieces? : List Char → Option (List (Char ⊕ Nat) × List Char)
  | '"' :: cs => some ([], cs)
  | '\\' :: 'u' :: a :: b :: c :: d :: cs => do
    let unit ← unit? a b c d
    let (pieces, rest) ← readPieces? cs
    return (.inr unit :: pieces, rest)
  | '\\' :: e :: cs => do
    let c ← simpleEscape? e
    let (pieces, rest) ← readPieces? cs
    return (.inl c :: pieces, rest)
  | c :: cs =>
    if c = '\\' ∨ c.toNat < 0x20 then none
    else do
      let (pieces, rest) ← readPieces? cs
      return (.inl c :: pieces, rest)
  | [] => none

theorem length_readPieces? {cs rest : List Char} {pieces : List (Char ⊕ Nat)}
    (h : readPieces? cs = some (pieces, rest)) : rest.length < cs.length := by
  fun_induction readPieces? cs generalizing pieces rest with
  | case1 cs => simp at h; obtain ⟨_, rfl⟩ := h; simp
  | case2 a b c d cs ih =>
    simp only [Option.bind_eq_bind, Option.bind_eq_some_iff, Prod.exists, Option.pure_def,
      Option.some.injEq, Prod.mk.injEq] at h
    obtain ⟨_, _, _, _, h, _, rfl⟩ := h
    have := ih h
    simp only [List.length_cons]
    omega
  | case3 e cs _ ih =>
    simp only [Option.bind_eq_bind, Option.bind_eq_some_iff, Prod.exists, Option.pure_def,
      Option.some.injEq, Prod.mk.injEq] at h
    obtain ⟨_, _, _, _, h, _, rfl⟩ := h
    have := ih h
    simp only [List.length_cons]
    omega
  | case4 => simp at h
  | case5 c cs _ _ _ _ ih =>
    simp only [Option.bind_eq_bind, Option.bind_eq_some_iff, Prod.exists, Option.pure_def,
      Option.some.injEq, Prod.mk.injEq] at h
    obtain ⟨_, _, h, _, rfl⟩ := h
    have := ih h
    simp only [List.length_cons]
    omega
  | case6 => simp at h

/-- Join the pieces of a string, two units of a surrogate pair to one character. A unit that is
half a pair and stands alone makes no text. -/
def joinPieces? : List (Char ⊕ Nat) → Option (List Char)
  | [] => some []
  | .inl c :: pieces => (joinPieces? pieces).map (c :: ·)
  | .inr unit :: pieces =>
    if isLeading unit then
      match pieces with
      | .inr next :: pieces =>
        if isTrailing next then
          let code := 0x10000 + (unit - 0xD800) * 0x400 + (next - 0xDC00)
          (joinPieces? pieces).map (Char.ofNat code :: ·)
        else none
      | _ => none
    else if isTrailing unit then none
    else (joinPieces? pieces).map (Char.ofNat unit :: ·)

/-- A string after its opening quote, and the text after it. -/
def readString? (cs : List Char) : Option (Option String × List Char) :=
  (readPieces? cs).map fun (pieces, rest) => ((joinPieces? pieces).map String.ofList, rest)

theorem length_readString? {cs rest : List Char} {text : Option String}
    (h : readString? cs = some (text, rest)) : rest.length < cs.length := by
  simp only [readString?, Option.map_eq_some_iff, Prod.mk.injEq, Prod.exists] at h
  obtain ⟨_, _, h, _, rfl⟩ := h
  exact length_readPieces? h

/-! ### Numbers -/

/-- The digits at the start of a text, and the text after them. -/
def spanDigits (cs : List Char) : List Char × List Char :=
  (cs.takeWhile Char.isDigit, cs.dropWhile Char.isDigit)

/-- At least one digit, and the text after the digits. -/
def readDigits? (cs : List Char) : Option (List Char × List Char) :=
  if (spanDigits cs).1 = [] then none else some (spanDigits cs)

/-- An optional decimal point with digits after it. -/
def readFraction? : List Char → Option (List Char × List Char)
  | '.' :: cs => (readDigits? cs).map fun (digits, rest) => ('.' :: digits, rest)
  | cs => some ([], cs)

/-- An optional exponent. -/
def readExponent? : List Char → Option (List Char × List Char)
  | c :: cs =>
    if c = 'e' ∨ c = 'E' then
      match cs with
      | s :: more =>
        if s = '+' ∨ s = '-' then
          (readDigits? more).map fun (digits, rest) => (c :: s :: digits, rest)
        else (readDigits? cs).map fun (digits, rest) => (c :: digits, rest)
      | [] => none
    else some ([], c :: cs)
  | [] => some ([], [])

/-- The literal of a number, and the text after it. A whole part of several digits does not start
with a zero. -/
def readNumber? (cs : List Char) : Option (List Char × List Char) := do
  let (sign, cs) := if cs.head? = some '-' then (['-'], cs.tail) else ([], cs)
  let (whole, rest) ← readDigits? cs
  if whole.head? = some '0' ∧ whole.length ≠ 1 then none
  else
    let (fraction, rest) ← readFraction? rest
    let (exponent, rest) ← readExponent? rest
    return (sign ++ whole ++ fraction ++ exponent, rest)

theorem readDigits?_append {cs digits rest : List Char} (h : readDigits? cs = some (digits, rest)) :
    digits ++ rest = cs ∧ digits ≠ [] := by
  unfold readDigits? spanDigits at h
  split at h
  · simp at h
  · simp only [Option.some.injEq, Prod.mk.injEq] at h
    obtain ⟨rfl, rfl⟩ := h
    exact ⟨List.takeWhile_append_dropWhile, by assumption⟩

theorem readFraction?_append {cs fraction rest : List Char}
    (h : readFraction? cs = some (fraction, rest)) : fraction ++ rest = cs := by
  unfold readFraction? at h
  split at h
  · simp only [Option.map_eq_some_iff, Prod.mk.injEq, Prod.exists] at h
    obtain ⟨_, _, h, rfl, rfl⟩ := h
    simp [← (readDigits?_append h).1]
  · simp only [Option.some.injEq, Prod.mk.injEq] at h
    obtain ⟨rfl, rfl⟩ := h
    rfl

theorem readExponent?_append {cs exponent rest : List Char}
    (h : readExponent? cs = some (exponent, rest)) : exponent ++ rest = cs := by
  unfold readExponent? at h
  split at h
  · split at h
    · split at h
      · split at h
        all_goals
          simp only [Option.map_eq_some_iff, Prod.mk.injEq, Prod.exists] at h
          obtain ⟨_, _, h, rfl, rfl⟩ := h
          simp [← (readDigits?_append h).1]
      · simp at h
    · simp only [Option.some.injEq, Prod.mk.injEq] at h
      obtain ⟨rfl, rfl⟩ := h
      rfl
  · simp only [Option.some.injEq, Prod.mk.injEq] at h
    obtain ⟨rfl, rfl⟩ := h
    rfl

/-- A number is read off the front of the text. -/
theorem readNumber?_append {cs literal rest : List Char}
    (h : readNumber? cs = some (literal, rest)) : literal ++ rest = cs ∧ literal ≠ [] := by
  simp only [readNumber?, Option.bind_eq_bind, Option.bind_eq_some_iff, Prod.exists] at h
  obtain ⟨whole, rest₁, h₁, h⟩ := h
  split at h
  · simp at h
  · simp only [Option.bind_eq_some_iff, Prod.exists, Option.pure_def, Option.some.injEq,
      Prod.mk.injEq] at h
    obtain ⟨fraction, rest₂, h₂, exponent, rest₃, h₃, rfl, rfl⟩ := h
    have e₁ := readDigits?_append h₁
    have e₂ := readFraction?_append h₂
    have e₃ := readExponent?_append h₃
    refine ⟨?_, by simp [e₁.2]⟩
    rw [List.append_assoc, e₃, List.append_assoc, e₂, List.append_assoc, e₁.1]
    split
    · cases cs <;> simp_all
    · simp

theorem length_readNumber? {cs literal rest : List Char}
    (h : readNumber? cs = some (literal, rest)) : rest.length < cs.length := by
  obtain ⟨rfl, hne⟩ := readNumber?_append h
  have := List.length_pos_iff.2 hne
  simp
  omega

/-! ### Documents -/

/-- What was read, and the text after it. -/
abbrev Reading (α : Type) (cs : List Char) :=
  Option (α × { rest : List Char // rest.length < cs.length })

-- The measure is twice the length of the text, and one more where several items are read from it.
mutual

/-- A document at the start of a text, after blanks. -/
def readValue (cs : List Char) : Reading Json cs :=
  match h : skipBlanks cs with
  | 'n' :: 'u' :: 'l' :: 'l' :: rest => some (.null, ⟨rest, by grind [lt_of_skipBlanks h]⟩)
  | 't' :: 'r' :: 'u' :: 'e' :: rest => some (.bool true, ⟨rest, by grind [lt_of_skipBlanks h]⟩)
  | 'f' :: 'a' :: 'l' :: 's' :: 'e' :: rest =>
    some (.bool false, ⟨rest, by grind [lt_of_skipBlanks h]⟩)
  | '"' :: more =>
    match hs : readString? more with
    | none => none
    | some (text, rest) =>
      some (.string text, ⟨rest, Nat.lt_trans (length_readString? hs) (lt_of_skipBlanks h)⟩)
  | '[' :: more =>
    match h' : skipBlanks more with
    | ']' :: rest =>
      some (.array [], ⟨rest, Nat.lt_trans (lt_of_skipBlanks h') (lt_of_skipBlanks h)⟩)
    | _ =>
      (readItems more).bind fun (items, rest) =>
        some (.array items, ⟨rest.1, Nat.lt_trans rest.2 (lt_of_skipBlanks h)⟩)
  | '\x7b' :: more =>
    match h' : skipBlanks more with
    | '\x7d' :: rest =>
      some (.object [], ⟨rest, Nat.lt_trans (lt_of_skipBlanks h') (lt_of_skipBlanks h)⟩)
    | _ =>
      (readMembers more).bind fun (members, rest) =>
        some (.object members, ⟨rest.1, Nat.lt_trans rest.2 (lt_of_skipBlanks h)⟩)
  | more =>
    match hn : readNumber? more with
    | none => none
    | some (literal, rest) =>
      some (.number literal,
        ⟨rest, Nat.lt_of_lt_of_le (length_readNumber? hn) (h ▸ length_skipBlanks cs)⟩)
termination_by 2 * cs.length
decreasing_by all_goals grind [lt_of_skipBlanks h]

/-- The items of an array up to its closing bracket. -/
def readItems (cs : List Char) : Reading (List Json) cs :=
  (readValue cs).bind fun (item, ⟨rest, hrest⟩) =>
    match h : skipBlanks rest with
    | ']' :: rest => some ([item], ⟨rest, Nat.lt_trans (lt_of_skipBlanks h) hrest⟩)
    | ',' :: more =>
      (readItems more).bind fun (items, rest) =>
        some (item :: items,
          ⟨rest.1, Nat.lt_trans (Nat.lt_trans rest.2 (lt_of_skipBlanks h)) hrest⟩)
    | _ => none
termination_by 2 * cs.length + 1
decreasing_by
  · omega
  · grind [lt_of_skipBlanks h]

/-- The members of an object up to its closing brace. -/
def readMembers (cs : List Char) : Reading (List (Option String × Json)) cs :=
  match h₁ : skipBlanks cs with
  | '"' :: more =>
    match h₂ : readString? more with
    | none => none
    | some (name, afterName) =>
      have h₂ := Nat.lt_trans (length_readString? h₂) (lt_of_skipBlanks h₁)
      match h₃ : skipBlanks afterName with
      | ':' :: afterColon =>
        have h₃ := Nat.lt_trans (lt_of_skipBlanks h₃) h₂
        (readValue afterColon).bind fun (value, ⟨rest, hrest⟩) =>
          have hrest := Nat.lt_trans hrest h₃
          match h : skipBlanks rest with
          | '\x7d' :: rest =>
            some ([(name, value)], ⟨rest, Nat.lt_trans (lt_of_skipBlanks h) hrest⟩)
          | ',' :: more =>
            (readMembers more).bind fun (members, rest) =>
              some ((name, value) :: members,
                ⟨rest.1, Nat.lt_trans (Nat.lt_trans rest.2 (lt_of_skipBlanks h)) hrest⟩)
          | _ => none
      | _ => none
  | _ => none
termination_by 2 * cs.length + 1
decreasing_by
  · omega
  · grind [lt_of_skipBlanks h]

end

/-- The document that a text holds. -/
def parse? (text : String) : Option Json :=
  match readValue text.toList with
  | some (document, rest) => if skipBlanks rest.1 = [] then some document else none
  | none => none

end Json

end Axial
