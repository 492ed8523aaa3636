/-!
# Escaped names

A name is written in a query as a run of safe characters; every other character of it is preceded
by a backslash. Letters and digits of ASCII, the four marks `_ . + -` and every character beyond
ASCII are safe.

* `isSafe` : the characters that stand for themselves.
* `escape`, `unescape` : writing a name and reading it back.
* `unescapeChars_escapeChars` : reading undoes writing.
-/

namespace Axial

namespace Text

/-- Whether a character is part of a name without an escape. -/
def isSafe (c : Char) : Bool :=
  c.isAlphanum || c = '_' || c = '.' || c = '+' || c = '-' || 127 < c.toNat

/-- Put a backslash before every character that is not safe. -/
def escapeChars : List Char → List Char
  | [] => []
  | c :: cs => if isSafe c then c :: escapeChars cs else '\\' :: c :: escapeChars cs

/-- Drop each backslash and keep the character after it; a backslash at the very end stays. -/
def unescapeChars : List Char → List Char
  | [] => []
  | '\\' :: c :: cs => c :: unescapeChars cs
  | c :: cs => c :: unescapeChars cs

/-- The way a name is written in a query. -/
def escape (name : String) : String :=
  String.ofList (escapeChars name.toList)

/-- The name that a written text stands for. -/
def unescape (text : String) : String :=
  String.ofList (unescapeChars text.toList)

@[simp] theorem isSafe_backslash : isSafe '\\' = false := by decide

@[simp] theorem isSafe_space : isSafe ' ' = false := by decide

theorem unescapeChars_cons_of_ne {c : Char} (h : c ≠ '\\') (cs : List Char) :
    unescapeChars (c :: cs) = c :: unescapeChars cs := by
  rw [unescapeChars]
  rintro _ _ rfl
  exact absurd rfl h

theorem ne_backslash_of_isSafe {c : Char} (h : isSafe c = true) : c ≠ '\\' := by
  rintro rfl
  simp at h

@[simp] theorem unescapeChars_escapeChars (name : List Char) :
    unescapeChars (escapeChars name) = name := by
  induction name with
  | nil => rfl
  | cons c cs ih =>
    rw [escapeChars]
    split
    · rename_i h
      rw [unescapeChars_cons_of_ne (ne_backslash_of_isSafe h), ih]
    · rw [unescapeChars, ih]

end Text

end Axial
