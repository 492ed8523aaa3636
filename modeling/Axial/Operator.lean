/-!
# Operators

The seventeen operators of the query language, their symbols, and how tightly they bind.

* `Combinator` : joins one more filter to the mask of an axis; `Combinator.combine`.
* `Comparison` : tests a property against a literal; `Comparison.holds`.
* `Operator.level`, `Operator.isLeftAssociative` : the binding table.
* `Operator.read?` : the longest symbol at the start of a text.
-/

namespace Axial

/-! ### Filters -/

/-- How a filter changes the mask of the filters before it. -/
inductive Combinator where
  | and
  | or
  | xor
deriving DecidableEq, Repr

/-- The mask of an entry after one more filter. -/
def Combinator.combine : Combinator → Bool → Bool → Bool
  | .and, mask, filter => mask && filter
  | .or, mask, filter => mask || filter
  | .xor, mask, filter => mask != filter

/-! ### Comparisons -/

/-- A test of a property against a literal. `like` and `unlike` read the literal as a regular
expression, the others as a value of the property's own type. -/
inductive Comparison where
  | less
  | lessEqual
  | equal
  | notEqual
  | greater
  | greaterEqual
  | like
  | unlike
deriving DecidableEq, Repr

namespace Comparison

/-- Whether the literal is a regular expression. -/
def isPattern : Comparison → Bool
  | .like | .unlike => true
  | _ => false

/-- Whether a value compares to the literal as asked. Values without an order differ, and no
order makes a regular expression match. -/
def holds : Comparison → Option Ordering → Bool
  | .notEqual, none => true
  | _, none => false
  | .less, some o => o == .lt
  | .lessEqual, some o => o != .gt
  | .equal, some o => o == .eq
  | .notEqual, some o => o != .eq
  | .greater, some o => o == .gt
  | .greaterEqual, some o => o != .lt
  | .like, some _ => false
  | .unlike, some _ => false

/-- The place of a comparison in the canonical order of filters. -/
def rank : Comparison → Nat
  | .less => 0
  | .lessEqual => 1
  | .equal => 2
  | .notEqual => 3
  | .greater => 4
  | .greaterEqual => 5
  | .like => 6
  | .unlike => 7

end Comparison

/-! ### The operator table -/

/-- An operator of the query language. -/
inductive Operator where
  /-- `%>`, reduces the axis before it. -/
  | reduce
  /-- `%`, applies an operation to every value. -/
  | eltwise
  /-- `@`, looks up a property of axes. -/
  | lookup
  /-- `;`, starts the parameters of an operation. -/
  | semicolon
  /-- `,`, separates two axes or two parameters. -/
  | comma
  /-- `&`, `|` and `^`, which add a filter to an axis. -/
  | combine (combinator : Combinator)
  /-- The comparisons; `=` also names an entry of an axis or assigns a parameter. -/
  | compare (comparison : Comparison)
  /-- `:`, follows a property to another axis. -/
  | chain
deriving DecidableEq, Repr

namespace Operator

/-- The text of an operator. -/
def symbol : Operator → String
  | reduce => "%>"
  | eltwise => "%"
  | lookup => "@"
  | semicolon => ";"
  | comma => ","
  | combine .and => "&"
  | combine .or => "|"
  | combine .xor => "^"
  | compare .less => "<"
  | compare .lessEqual => "<="
  | compare .equal => "="
  | compare .notEqual => "!="
  | compare .greaterEqual => ">="
  | compare .greater => ">"
  | compare .like => "~"
  | compare .unlike => "!~"
  | chain => ":"

/-- How tightly an operator binds: the higher, the tighter. -/
def level : Operator → Nat
  | reduce => 0
  | eltwise => 1
  | lookup => 2
  | semicolon | comma => 3
  | combine _ => 4
  | compare _ => 5
  | chain => 6

/-- Reductions group to the left, all other operators to the right. -/
def isLeftAssociative : Operator → Bool
  | reduce => true
  | _ => false

/-- The least level of an operator inside the right operand. -/
def rightLevel (op : Operator) : Nat :=
  if op.isLeftAssociative then op.level + 1 else op.level

/-- Whether the operator adds a filter to an axis. -/
def isFilter : Operator → Bool
  | combine _ => true
  | _ => false

/-- Whether the operator is a comparison. -/
def isComparison : Operator → Bool
  | compare _ => true
  | _ => false

/-- The longest operator symbol that a text starts with, and the text after it. -/
def read? : List Char → Option (Operator × List Char)
  | '%' :: '>' :: cs => some (reduce, cs)
  | '<' :: '=' :: cs => some (compare .lessEqual, cs)
  | '>' :: '=' :: cs => some (compare .greaterEqual, cs)
  | '!' :: '=' :: cs => some (compare .notEqual, cs)
  | '!' :: '~' :: cs => some (compare .unlike, cs)
  | '%' :: cs => some (eltwise, cs)
  | '@' :: cs => some (lookup, cs)
  | ';' :: cs => some (semicolon, cs)
  | ',' :: cs => some (comma, cs)
  | '&' :: cs => some (combine .and, cs)
  | '|' :: cs => some (combine .or, cs)
  | '^' :: cs => some (combine .xor, cs)
  | '<' :: cs => some (compare .less, cs)
  | '=' :: cs => some (compare .equal, cs)
  | '>' :: cs => some (compare .greater, cs)
  | '~' :: cs => some (compare .like, cs)
  | ':' :: cs => some (chain, cs)
  | _ => none

/-- A symbol is read off the front of the text. -/
theorem read?_eq_append {cs rest : List Char} {op : Operator} (h : read? cs = some (op, rest)) :
    cs = op.symbol.toList ++ rest := by
  unfold read? at h
  split at h <;> simp_all [symbol] <;> (obtain ⟨rfl, rfl⟩ := h; rfl)

theorem symbol_ne_nil (op : Operator) : op.symbol.toList ≠ [] := by
  unfold symbol
  split <;> simp

theorem length_of_read? {cs rest : List Char} {op : Operator} (h : read? cs = some (op, rest)) :
    rest.length < cs.length := by
  have hpos := List.length_pos_iff.2 (symbol_ne_nil op)
  rw [read?_eq_append h, List.length_append]
  omega

end Operator

end Axial
