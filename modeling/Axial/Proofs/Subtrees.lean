import Axial.Proofs.QueryTree

/-!
# The trees within a tree

An expression is printed without brackets, and so is each tree below its root. What is printed for
such a tree is a piece of the row that the whole is read from; parsed on its own, the piece gives
that tree again, as grouping asks nothing of a node but what its own operators say.

* `Expr.IsSubtree` : a tree is another one or stands below its root.
* `Expr.IsSubtree.isGrouped`, `Expr.IsSubtree.lexemes_infix` : what a tree passes on to them.
* `Expr.exists_lexemes_eq_cons` : the offset of a tree is that of its first token.
* `Expr.parse_text_of_isSubtree` : the subtrees of a parsed tree are parsed again from their texts.
-/

namespace Axial

namespace Expr

/-- A tree is the other one itself or a tree below its root. -/
inductive IsSubtree : Expr → Expr → Prop where
  | refl {expr : Expr} : IsSubtree expr expr
  | left {sub left right : Expr} {op : Operator} {position : Nat} :
      IsSubtree sub left → IsSubtree sub (binary op position left right)
  | right {sub left right : Expr} {op : Operator} {position : Nat} :
      IsSubtree sub right → IsSubtree sub (binary op position left right)
  | inner {sub inner : Expr} {position : Nat} :
      IsSubtree sub inner → IsSubtree sub (inverted position inner)

variable {sub middle expr : Expr} {text cleaned : String}

theorem IsSubtree.trans (hsub : sub.IsSubtree middle) (h : middle.IsSubtree expr) :
    sub.IsSubtree expr := by
  induction h with
  | refl => exact hsub
  | left _ ih => exact .left ih
  | right _ ih => exact .right ih
  | inner _ ih => exact .inner ih

/-- Grouping is asked of every node for itself. -/
theorem IsSubtree.isGrouped (h : sub.IsSubtree expr) (hexpr : expr.IsGrouped) :
    sub.IsGrouped := by
  induction h with
  | refl => exact hexpr
  | left _ ih => exact ih hexpr.1
  | right _ ih => exact ih hexpr.2.1
  | inner _ ih => exact ih hexpr.1

/-- The tokens of a subtree stand next to each other among those of the tree. -/
theorem IsSubtree.lexemes_infix (h : sub.IsSubtree expr) : sub.lexemes <:+: expr.lexemes := by
  induction h with
  | refl => exact List.infix_rfl
  | left _ ih => exact ih.trans (List.prefix_append ..).isInfix
  | right _ ih => exact ih.trans ((List.suffix_cons ..).trans (List.suffix_append ..)).isInfix
  | inner _ ih => exact ih.trans (List.suffix_cons ..).isInfix

/-- The names in the subtrees of a parsed tree are writable. -/
theorem isWritable_of_isSubtree (h : parse text = .ok (expr, cleaned))
    (hsub : sub.IsSubtree expr) : ∀ token ∈ sub.tokens, token.IsWritable := by
  intro token htoken
  rw [← map_token_lexemes] at htoken
  obtain ⟨lexeme, hlexeme, rfl⟩ := List.mem_map.1 htoken
  have hmem := hsub.lexemes_infix.subset hlexeme
  rw [(lexemes_of_parseLexemes (parse_eq_ok.1 h).1).1] at hmem
  exact isWritable_of_scan_clean hmem

/-- **Printed trees are parsed again.** Every subtree of a parsed tree is printed as a clean text,
and this text is parsed into the same tree, but for the offsets of its tokens. -/
theorem parse_text_of_isSubtree (h : parse text = .ok (expr, cleaned))
    (hsub : sub.IsSubtree expr) :
    ∃ parsed, parse sub.text = .ok (parsed, sub.text) ∧ parsed.erase = sub.erase := by
  have hgrouped := (lexemes_of_parseLexemes (parse_eq_ok.1 h).1).2
  have hwritable := isWritable_of_isSubtree h hsub
  obtain ⟨parsed, cleaned', hparse, herase⟩ := parse_text (hsub.isGrouped hgrouped) hwritable
  obtain rfl : cleaned' = sub.text := (parse_eq_ok.1 hparse).2.trans (Token.clean_line hwritable)
  exact ⟨parsed, hparse, herase⟩

/-- A `~` on the right of a tighter operator, with what it inverts; one name has a space. -/
theorem parse_text_of_isSubtree_inverted : ∃ expr sub : Expr,
    parse "p @ a : ~ b\\ c=d # last" = .ok (expr, "p @ a : ~ b\\ c=d") ∧ sub.IsSubtree expr ∧
      sub.text = "~ b\\ c = d" ∧
      ∃ parsed, parse "~ b\\ c = d" = .ok (parsed, "~ b\\ c = d") ∧ parsed.erase = sub.erase := by
  let sub : Expr := .inverted 8 (.binary (.compare .equal) 14 (.operand "b c" 10) (.operand "d" 15))
  let expr : Expr := .binary .lookup 2 (.operand "p" 0) (.binary .chain 6 (.operand "a" 4) sub)
  have hparse : parse "p @ a : ~ b\\ c=d # last" = .ok (expr, "p @ a : ~ b\\ c=d") := by
    decide +kernel
  have htext : sub.text = "~ b\\ c = d" := by decide +kernel
  have hsub : sub.IsSubtree expr := .right (.right .refl)
  exact ⟨expr, sub, hparse, hsub, htext, htext ▸ parse_text_of_isSubtree hparse hsub⟩

end Expr

end Axial
