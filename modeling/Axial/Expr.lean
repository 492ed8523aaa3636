import Axial.Token

/-!
# Expressions

The generic tree of a query, before any meaning is given to its operators. Every node keeps the
offset of its own token.

* `Expr.position` : the offset of the leftmost token of a tree.
* `Expr.tokens`, `Expr.text` : a tree read from left to right, and written on one line.
-/

namespace Axial

/-- The tree of a query. -/
inductive Expr where
  /-- A name or a literal. -/
  | operand (value : String) (position : Nat)
  /-- An operator between two trees. -/
  | binary (op : Operator) (position : Nat) (left right : Expr)
  /-- A `~` before a tree, which inverts a property. -/
  | inverted (position : Nat) (inner : Expr)
deriving DecidableEq, Repr

namespace Expr

/-- The offset of the leftmost token of a tree. -/
def position : Expr → Nat
  | operand _ position => position
  | binary _ _ left _ => left.position
  | inverted position _ => position

/-- The tokens of a tree, from left to right. -/
def tokens : Expr → List Token
  | operand value _ => [.operand value]
  | binary op _ left right => left.tokens ++ .operator op :: right.tokens
  | inverted _ inner => .operator (.compare .like) :: inner.tokens

/-- A tree on one line. The language has no brackets: operator levels alone give the grouping. -/
def text (expr : Expr) : String :=
  Token.line expr.tokens

/-- Whether the tree names an entry of an axis. -/
def isEntry : Expr → Bool
  | binary (.compare .equal) .. => true
  | _ => false

end Expr

end Axial
