import Axial.ParseError

/-!
# Parsing expressions

Operators are grouped by level: an operand is followed by operators of at least the asked level,
and the right side of each operator holds the operators that bind at least as tightly as the
operator's own right side may.

* `Expr.parseLexemes` : the tree of a row of tokens.
* `Expr.parse` : the tree of a query text, together with the cleaned text.

Tokens are met one by one, so of two faults in a query the first one is reported.
-/

namespace Axial

namespace Expr

/-- What stands at the end of a row of tokens, when one more token is asked for. -/
def atEnding (ending : Ending) (otherwise : Nat → ParseCause) : ParseCause :=
  match ending with
  | .faulty fault => .lexical fault
  | .complete position => otherwise position

/-- A tree and the tokens after it. -/
abbrev Parsed (lexemes : List Lexeme) :=
  Expr × { rest : List Lexeme // rest.length < lexemes.length }

mutual

/-- Parse one operand, or a `~` and what it inverts, and the operators after it of at least the
given level. -/
def parseFrom (ending : Ending) (level : Nat) (lexemes : List Lexeme) :
    Except ParseCause (Parsed lexemes) :=
  match lexemes with
  | [] => .error (atEnding ending (.grammar .operand .endOfQuery))
  | ⟨.operand value, position⟩ :: more => do
    let (expr, rest) ← parseAfter ending level (.operand value position) more
    return (expr, ⟨rest.1, by have := rest.2; simp only [List.length_cons]; omega⟩)
  | ⟨.operator (.compare .like), position⟩ :: more => do
    let (inner, ⟨rest, _⟩) ← parseFrom ending (Operator.compare .like).level more
    let (expr, rest) ← parseAfter ending level (.inverted position inner) rest
    return (expr, ⟨rest.1, by have := rest.2; simp only [List.length_cons]; omega⟩)
  | ⟨token, position⟩ :: _ => .error (.grammar .operand (.token token) position)
termination_by lexemes.length

/-- Parse the operators of at least the given level after a tree, each with its right side. -/
def parseAfter (ending : Ending) (level : Nat) (left : Expr) (lexemes : List Lexeme) :
    Except ParseCause (Expr × { rest : List Lexeme // rest.length ≤ lexemes.length }) :=
  match lexemes, ending with
  | [], .faulty fault => .error (.lexical fault)
  | ⟨.operator op, position⟩ :: more, ending =>
    if level ≤ op.level then do
      let (right, ⟨rest, _⟩) ← parseFrom ending op.rightLevel more
      let (expr, rest) ← parseAfter ending level (.binary op position left right) rest
      return (expr, ⟨rest.1, by have := rest.2; simp only [List.length_cons]; omega⟩)
    else return (left, ⟨_, Nat.le_refl _⟩)
  | _, _ => return (left, ⟨_, Nat.le_refl _⟩)
termination_by lexemes.length

end

/-- The tree of a row of tokens. -/
def parseLexemes (scan : Scan) : Except ParseCause Expr :=
  match scan.lexemes with
  | [] => .error (atEnding scan.ending fun _ => .emptyQuery)
  | _ :: _ => do
    let (expr, ⟨rest, _⟩) ← parseFrom scan.ending 0 scan.lexemes
    match rest with
    | [] => return expr
    | ⟨token, position⟩ :: _ => .error (.grammar .operator (.token token) position)

/-- The tree of a query, and the cleaned text that its offsets count in. -/
def parse (query : String) : Except ParseError (Expr × String) :=
  let cleaned := Text.clean query
  match parseLexemes (scan cleaned) with
  | .ok expr => .ok (expr, cleaned)
  | .error cause => .error ⟨cleaned, cause⟩

end Expr

end Axial
