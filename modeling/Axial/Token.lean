import Axial.Text.Clean
import Axial.Operator

/-!
# Tokens

A cleaned query is a row of operands and operators, with at most one space between two of them.
Each token carries the offset of its first character.

* `Token.chars`, `Token.line` : how tokens are written, with single spaces between them.
* `operandSpan` : the longest run of safe or escaped characters at the start of a text.
* `scan` : the tokens of a text, and how the row of tokens ends.

A scan keeps the tokens before a fault, so that a parser meets the fault only when it asks for
the token there.
-/

namespace Axial

/-- A word of the query language. -/
inductive Token where
  /-- A name or a literal, with its escapes resolved. -/
  | operand (value : String)
  | operator (op : Operator)
deriving DecidableEq, Repr

/-- The characters that a token is written with. -/
def Token.chars : Token → List Char
  | operand value => Text.escapeChars value.toList
  | operator op => op.symbol.toList

/-- A row of tokens on one line, with a single space between two of them. -/
def Token.line (tokens : List Token) : String :=
  String.ofList ([' '].intercalate (tokens.map Token.chars))

/-- A token and the offset of its first character. -/
structure Lexeme where
  token : Token
  position : Nat
deriving DecidableEq, Repr

/-- Why a text is not a row of tokens. -/
inductive LexicalFault where
  /-- A character that starts no token. -/
  | unexpectedCharacter (character : Char) (position : Nat)
  /-- A backslash with nothing after it. -/
  | danglingEscape (position : Nat)
deriving DecidableEq, Repr

/-- How a row of tokens ends: at the end of the text, or at a fault. -/
inductive Ending where
  | complete (position : Nat)
  | faulty (fault : LexicalFault)
deriving DecidableEq, Repr

/-- The tokens of a text up to its end or its first fault. -/
structure Scan where
  lexemes : List Lexeme
  ending : Ending
deriving DecidableEq, Repr

/-- Put a lexeme before a scan. -/
def Scan.cons (lexeme : Lexeme) (rest : Scan) : Scan :=
  { rest with lexemes := lexeme :: rest.lexemes }

namespace Text

/-- Split a text after its longest run of safe or escaped characters. The rest starts with a
backslash only if that backslash is the last character of the text. -/
def operandSpan : List Char → List Char × List Char
  | [] => ([], [])
  | '\\' :: c :: cs =>
    let (run, rest) := operandSpan cs
    ('\\' :: c :: run, rest)
  | c :: cs =>
    if isSafe c then
      let (run, rest) := operandSpan cs
      (c :: run, rest)
    else ([], c :: cs)

/-- Nothing is lost by the split. -/
theorem operandSpan_append (cs : List Char) :
    (operandSpan cs).1 ++ (operandSpan cs).2 = cs := by
  fun_induction operandSpan cs <;> simp_all

/-- A text that starts with a safe character or a backslash starts with a non-empty run, unless
it is a lone backslash. -/
theorem operandSpan_fst_ne_nil {c : Char} {cs : List Char} (hc : c = '\\' ∨ isSafe c = true)
    (hne : (operandSpan (c :: cs)).2 ≠ ['\\']) : (operandSpan (c :: cs)).1 ≠ [] := by
  rcases hc with rfl | hc
  · cases cs with
    | nil => simp [operandSpan] at hne
    | cons d ds => simp [operandSpan]
  · rw [operandSpan.eq_3 _ _ (by rintro _ _ rfl; simp at hc)]
    simp [hc]

theorem length_operandSpan_snd {c : Char} {cs : List Char} (hc : c = '\\' ∨ isSafe c = true)
    (hne : (operandSpan (c :: cs)).2 ≠ ['\\']) :
    (operandSpan (c :: cs)).2.length < (c :: cs).length := by
  have happ := congrArg List.length (operandSpan_append (c :: cs))
  have hpos := List.length_pos_iff.2 (operandSpan_fst_ne_nil hc hne)
  rw [List.length_append] at happ
  omega

end Text

set_option linter.unusedVariables false in
open Text in
/-- The tokens of a text whose first character has the given offset. -/
def scanFrom (position : Nat) : List Char → Scan
  | [] => ⟨[], .complete position⟩
  | c :: cs =>
    if c = ' ' then scanFrom (position + 1) cs
    else if hc : c = '\\' ∨ isSafe c = true then
      let run := (operandSpan (c :: cs)).1
      if hne : (operandSpan (c :: cs)).2 = ['\\'] then
        ⟨[], .faulty (.danglingEscape (position + run.length))⟩
      else
        (scanFrom (position + run.length) (operandSpan (c :: cs)).2).cons
          ⟨.operand (String.ofList (unescapeChars run)), position⟩
    else
      match h : Operator.read? (c :: cs) with
      | some (op, rest) =>
        (scanFrom (position + op.symbol.length) rest).cons ⟨.operator op, position⟩
      | none => ⟨[], .faulty (.unexpectedCharacter c position)⟩
termination_by cs => cs.length
decreasing_by
  · simp
  · exact length_operandSpan_snd hc hne
  · exact Operator.length_of_read? h

/-- The tokens of a cleaned query. -/
def scan (query : String) : Scan :=
  scanFrom 0 query.toList

end Axial
