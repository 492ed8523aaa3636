import Axial.Proofs.Outcome
import Axial.Expr.Parser

/-!
# The grouping of expressions

A row of tokens is an expression if operands, each after any number of `~`, alternate with
operators. Such a row is parsed, and into one tree only: the one that reads from left to right as
the row itself and whose nodes are grouped by the levels of their operators.

* `Token.IsRow` : the rows of tokens that are expressions.
* `Expr.lexemes` : a tree read from left to right, every token at its own offset.
* `Expr.IsGrouped` : the grouping that the levels of the operators demand.
* `Expr.parse_of_complete` : what parsing makes of a text whose tokens all lex.

A `~` takes all operators of level 5 and 6 after its operand, wherever it stands. So it may stand
on the right of an operator that binds tighter than that, and a tree may not follow it there: this
is the last condition of `Expr.IsGrouped`, and the reason why the levels of the children alone
would not make a tree unique.
-/

namespace Axial

/-! ### Rows of tokens -/

namespace Token

/-- An operand after any number of `~`. -/
def IsPrimary (tokens : List Token) : Prop :=
  ∃ (n : Nat) (value : String),
    tokens = List.replicate n (.operator (.compare .like)) ++ [.operand value]

/-- Operands, each after any number of `~`, with an operator between two of them. -/
inductive IsRow : List Token → Prop where
  | primary {first : List Token} : IsPrimary first → IsRow first
  | more {first rest : List Token} (op : Operator) :
      IsPrimary first → IsRow rest → IsRow (first ++ .operator op :: rest)

/-- The rest of a row after an operand. -/
def IsRest : List Token → Prop
  | [] => True
  | .operator _ :: tokens => IsRow tokens
  | .operand _ :: _ => False

theorem IsPrimary.like_cons {tokens : List Token} (h : IsPrimary tokens) :
    IsPrimary (.operator (.compare .like) :: tokens) := by
  obtain ⟨n, value, rfl⟩ := h
  exact ⟨n + 1, value, rfl⟩

theorem IsPrimary.cases {tokens : List Token} (h : IsPrimary tokens) :
    (∃ value, tokens = [.operand value]) ∨
      ∃ more, IsPrimary more ∧ tokens = .operator (.compare .like) :: more := by
  obtain ⟨n, value, rfl⟩ := h
  cases n with
  | zero => exact .inl ⟨value, rfl⟩
  | succ n => exact .inr ⟨_, ⟨n, value, rfl⟩, rfl⟩

theorem IsRow.like_cons {tokens : List Token} (h : IsRow tokens) :
    IsRow (.operator (.compare .like) :: tokens) := by
  cases h with
  | primary hfirst => exact .primary hfirst.like_cons
  | more op hfirst hrest => exact .more op hfirst.like_cons hrest

/-- A row starts with an operand or with a `~`. -/
theorem IsRow.cases {row : List Token} (h : IsRow row) :
    (∃ value tokens, row = .operand value :: tokens ∧ IsRest tokens) ∨
      ∃ tokens, row = .operator (.compare .like) :: tokens ∧ IsRow tokens := by
  cases h with
  | primary hfirst =>
    rcases hfirst.cases with ⟨value, rfl⟩ | ⟨more, hmore, rfl⟩
    · exact .inl ⟨value, [], rfl, trivial⟩
    · exact .inr ⟨more, rfl, .primary hmore⟩
  | more op hfirst hrest =>
    rcases hfirst.cases with ⟨value, rfl⟩ | ⟨more, hmore, rfl⟩
    · exact .inl ⟨value, _, rfl, hrest⟩
    · exact .inr ⟨_, rfl, .more op hmore hrest⟩

/-- Two rows with an operator between them are a row. -/
theorem IsRow.append {first rest : List Token} (op : Operator) (hfirst : IsRow first)
    (hrest : IsRow rest) : IsRow (first ++ .operator op :: rest) := by
  induction hfirst with
  | primary h => exact .more op h hrest
  | more op' h _ ih =>
    rw [List.append_assoc, List.cons_append]
    exact .more op' h ih

end Token

namespace Expr

/-! ### Grouped trees -/

/-- The tokens of a tree from left to right, each at the offset that its node keeps. -/
def lexemes : Expr → List Lexeme
  | operand value position => [⟨.operand value, position⟩]
  | binary op position left right => left.lexemes ++ ⟨.operator op, position⟩ :: right.lexemes
  | inverted position inner => ⟨.operator (.compare .like), position⟩ :: inner.lexemes

/-- The operator between the two children of the root. -/
def root? : Expr → Option Operator
  | binary op .. => some op
  | _ => none

/-- Whether a `~` stands on the right spine of a tree. -/
def EndsInverted : Expr → Prop
  | operand .. => False
  | binary _ _ _ right => right.EndsInverted
  | inverted .. => True

/-- The grouping that the levels of the operators demand. A left child binds tighter than its
operator and a right child at least as tightly; it is the other way around for an operator that
groups to the left. What a `~` inverts has at least level 5, and no `~` ends the left child of an
operator that it would have taken in. -/
def IsGrouped : Expr → Prop
  | operand .. => True
  | binary op _ left right =>
    left.IsGrouped ∧ right.IsGrouped
      ∧ (∀ o ∈ left.root?, op.level < o.level ∨ op.isLeftAssociative ∧ o.level = op.level)
      ∧ (∀ o ∈ right.root?, op.level < o.level ∨ ¬ op.isLeftAssociative ∧ o.level = op.level)
      ∧ (5 ≤ op.level → ¬ left.EndsInverted)
  | inverted _ inner => inner.IsGrouped ∧ ∀ o ∈ inner.root?, 5 ≤ o.level

/-- The root binds at least as tightly as the level. -/
def Binds (level : Nat) (expr : Expr) : Prop :=
  ∀ o ∈ expr.root?, level ≤ o.level

/-- An operator of the given level that follows the tree finds it complete: no operator or `~` on
the right spine takes it in. -/
def Closes (level : Nat) : Expr → Prop
  | operand .. => True
  | binary op _ _ right => level < op.rightLevel ∧ right.Closes level
  | inverted _ inner => level < 5 ∧ inner.Closes level

variable {op : Operator} {level position : Nat} {left right inner : Expr}

@[simp] theorem binds_operand (value : String) : (operand value position).Binds level := by
  simp [Binds, root?]

@[simp] theorem binds_inverted : (inverted position inner).Binds level := by
  simp [Binds, root?]

@[simp] theorem binds_binary : (binary op position left right).Binds level ↔ level ≤ op.level := by
  simp [Binds, root?]

theorem Binds.mono {lower : Nat} {expr : Expr} (h : expr.Binds level) (hle : lower ≤ level) :
    expr.Binds lower :=
  fun o ho => Nat.le_trans hle (h o ho)

theorem level_le_rightLevel (op : Operator) : op.level ≤ op.rightLevel := by
  unfold Operator.rightLevel
  split <;> omega

theorem isLeftAssociative_iff : op.isLeftAssociative = true ↔ op.level = 0 := by
  cases op <;> simp [Operator.isLeftAssociative, Operator.level]

theorem lt_rightLevel_iff (o : Operator) :
    op.level < o.rightLevel ↔ op.level < o.level ∨ op.isLeftAssociative ∧ o.level = op.level := by
  simp only [Operator.rightLevel, isLeftAssociative_iff]
  split <;> omega

theorem rightLevel_le_iff (o : Operator) :
    op.rightLevel ≤ o.level ↔ op.level < o.level ∨ ¬ op.isLeftAssociative ∧ o.level = op.level := by
  by_cases hleft : op.isLeftAssociative = true
  · rw [Operator.rightLevel, if_pos hleft, Nat.succ_le_iff]
    simp [hleft]
  · rw [Operator.rightLevel, if_neg hleft, Nat.le_iff_lt_or_eq]
    simp [hleft, eq_comm]

/-- In a grouped tree the levels rise along the right spine up to the first `~`, so it is enough
to look at the root and for a `~`. -/
theorem IsGrouped.closes {expr : Expr} (h : expr.IsGrouped)
    (hroot : ∀ o ∈ expr.root?, level < o.rightLevel) (hinv : 5 ≤ level → ¬ expr.EndsInverted) :
    expr.Closes level := by
  induction expr with
  | operand value position => trivial
  | binary op position left right _ ih =>
    obtain ⟨-, hright, -, hlevel, -⟩ := h
    have hop : level < op.rightLevel := hroot op rfl
    refine ⟨hop, ih hright (fun o ho => ?_) hinv⟩
    have hle : op.rightLevel ≤ o.level := (rightLevel_le_iff o).2 (hlevel o ho)
    have := level_le_rightLevel o
    omega
  | inverted position inner ih =>
    have hlt : level < 5 := Nat.lt_of_not_le fun hge => hinv hge trivial
    refine ⟨hlt, ih h.1 (fun o ho => ?_) (fun hge => by omega)⟩
    have := h.2 o ho
    have := level_le_rightLevel o
    omega

theorem Closes.not_endsInverted {expr : Expr} (h : expr.Closes level) (hle : 5 ≤ level) :
    ¬ expr.EndsInverted := by
  induction expr with
  | operand value position => exact id
  | binary op position left right _ ih => exact ih h.2
  | inverted position inner _ => exact absurd h.1 (by omega)

theorem Closes.lt_rightLevel {expr : Expr} (h : expr.Closes level) :
    ∀ o ∈ expr.root?, level < o.rightLevel := by
  cases expr with
  | binary op position left right =>
    intro o ho
    cases ho
    exact h.1
  | _ => simp [root?]

theorem Closes.binds {expr : Expr} (h : expr.Closes level) : expr.Binds level := by
  intro o ho
  have hlt := h.lt_rightLevel o ho
  unfold Operator.rightLevel at hlt
  split at hlt <;> omega

/-- The grouping of a node in terms of what the operators take in. -/
theorem isGrouped_binary :
    (binary op position left right).IsGrouped ↔
      left.IsGrouped ∧ right.IsGrouped ∧ left.Closes op.level ∧ right.Binds op.rightLevel := by
  constructor
  · rintro ⟨hl, hr, hlevel, hlevel', hinv⟩
    exact ⟨hl, hr, hl.closes (fun o ho => (lt_rightLevel_iff o).2 (hlevel o ho)) hinv,
      fun o ho => (rightLevel_le_iff o).2 (hlevel' o ho)⟩
  · rintro ⟨hl, hr, hcloses, hbinds⟩
    exact ⟨hl, hr, fun o ho => (lt_rightLevel_iff o).1 (hcloses.lt_rightLevel o ho),
      fun o ho => (rightLevel_le_iff o).1 (hbinds o ho), hcloses.not_endsInverted⟩

/-- The tokens of any tree are a row. -/
theorem isRow_tokens (expr : Expr) : Token.IsRow expr.tokens := by
  induction expr with
  | operand value position => exact .primary ⟨0, value, rfl⟩
  | binary op position left right ihl ihr => exact ihl.append op ihr
  | inverted position inner ih => exact ih.like_cons

theorem map_token_lexemes (expr : Expr) : expr.lexemes.map Lexeme.token = expr.tokens := by
  induction expr with
  | operand value position => rfl
  | binary op position left right ihl ihr => simp [lexemes, tokens, ihl, ihr]
  | inverted position inner ih => simp [lexemes, tokens, ih]

/-! ### What parsing reads -/

/-- The level of the operator that a row starts with, if it starts with one, is as asked. -/
def Heads (P : Nat → Prop) : List Lexeme → Prop
  | ⟨.operator op, _⟩ :: _ => P op.level
  | _ => True

theorem heads_of_not_operator {P : Nat → Prop} {lexemes : List Lexeme}
    (h : ∀ (op : Operator) (position : Nat) (more : List Lexeme),
      lexemes ≠ ⟨.operator op, position⟩ :: more) : Heads P lexemes := by
  match lexemes with
  | [] => trivial
  | ⟨.operand _, _⟩ :: _ => trivial
  | ⟨.operator op, position⟩ :: more => exact absurd rfl (h op position more)

theorem Heads.and {P Q : Nat → Prop} {lexemes : List Lexeme} (hP : Heads P lexemes)
    (hQ : Heads Q lexemes) : Heads (fun n => P n ∧ Q n) lexemes := by
  match lexemes, hP, hQ with
  | [], _, _ => trivial
  | ⟨.operand _, _⟩ :: _, _, _ => trivial
  | ⟨.operator _, _⟩ :: _, hP, hQ => exact ⟨hP, hQ⟩

theorem Heads.imp {P Q : Nat → Prop} (h : ∀ n, P n → Q n) {lexemes : List Lexeme}
    (hP : Heads P lexemes) : Heads Q lexemes := by
  match lexemes, hP with
  | [], _ => trivial
  | ⟨.operand _, _⟩ :: _, _ => trivial
  | ⟨.operator op, _⟩ :: _, hP => exact h op.level hP

theorem heads_of_forall {P : Nat → Prop} (h : ∀ n, P n) (lexemes : List Lexeme) :
    Heads P lexemes := by
  match lexemes with
  | [] => trivial
  | ⟨.operand _, _⟩ :: _ => trivial
  | ⟨.operator op, _⟩ :: _ => exact h op.level

/-- A row starts with a grouped tree that binds as the level asks, and that takes in all operators
of the level. -/
structure Starts (level : Nat) (lexemes : List Lexeme) (expr : Expr) (rest : List Lexeme) :
    Prop where
  append : expr.lexemes ++ rest = lexemes
  grouped : expr.IsGrouped
  binds : expr.Binds level
  stops : Heads (· < level) rest
  closes : Heads expr.Closes rest

/-- What is parsed starts the row; the operators after a tree are taken in from the left. -/
theorem starts_of_parse :
    (∀ (ending : Ending) (level : Nat) (lexemes : List Lexeme) (r : Parsed lexemes),
      parseFrom ending level lexemes = .ok r → Starts level lexemes r.1 r.2.1) ∧
    ∀ (ending : Ending) (level : Nat) (left : Expr) (lexemes : List Lexeme)
      (r : Expr × { rest : List Lexeme // rest.length ≤ lexemes.length }),
      parseAfter ending level left lexemes = .ok r → left.IsGrouped → left.Binds level →
      Heads left.Closes lexemes → Starts level (left.lexemes ++ lexemes) r.1 r.2.1 := by
  apply parseFrom.mutual_induct
    (fun ending level lexemes => ∀ r : Parsed lexemes,
      parseFrom ending level lexemes = .ok r → Starts level lexemes r.1 r.2.1)
    (fun ending level left lexemes =>
      ∀ r : Expr × { rest : List Lexeme // rest.length ≤ lexemes.length },
      parseAfter ending level left lexemes = .ok r → left.IsGrouped → left.Binds level →
      Heads left.Closes lexemes → Starts level (left.lexemes ++ lexemes) r.1 r.2.1)
  case case1 =>
    intro ending level r h
    rw [parseFrom] at h
    cases h
  case case2 =>
    -- an operand, and the operators after it
    intro ending level value position more ih r h
    rw [parseFrom] at h
    obtain ⟨⟨expr, rest, hrest⟩, hafter, hr⟩ := bind_eq_ok.1 h
    cases hr
    exact ih _ hafter trivial (binds_operand value) (heads_of_forall (fun _ => trivial) more)
  case case3 =>
    -- a `~`: what it inverts stops before the operators that follow the `~` itself
    intro ending level position more ihInner ihAfter r h
    rw [parseFrom] at h
    obtain ⟨⟨inner, rest, hrest⟩, hinner, h⟩ := bind_eq_ok.1 h
    obtain ⟨⟨expr, rest', hrest'⟩, hafter, hr⟩ := bind_eq_ok.1 h
    cases hr
    have hs := ihInner _ hinner
    have hcloses : Heads (inverted position inner).Closes rest := hs.stops.and hs.closes
    have ha := ihAfter inner rest hrest _ hafter ⟨hs.grouped, hs.binds⟩ binds_inverted hcloses
    exact ⟨by rw [ha.append, lexemes, List.cons_append, hs.append], ha.grouped, ha.binds,
      ha.stops, ha.closes⟩
  case case4 =>
    intro ending level token position tail hoperand hlike r h
    rw [parseFrom] at h
    · cases h
    · exact hoperand
    · exact hlike
  case case5 =>
    intro level left fault r h
    rw [parseAfter] at h
    cases h
  case case6 =>
    -- an operator of the level: its right side stops before the operators that follow the node
    intro level left op position more ending hle ihRight ihAfter r h hgrouped hbinds hcloses
    rw [parseAfter, if_pos hle] at h
    obtain ⟨⟨right, rest, hrest⟩, hright, h⟩ := bind_eq_ok.1 h
    obtain ⟨⟨expr, rest', hrest'⟩, hafter, hr⟩ := bind_eq_ok.1 h
    cases hr
    have hs := ihRight _ hright
    have hnode : (binary op position left right).IsGrouped :=
      isGrouped_binary.2 ⟨hgrouped, hs.grouped, hcloses, hs.binds⟩
    have hcloses' : Heads (binary op position left right).Closes rest :=
      hs.stops.and hs.closes
    have ha := ihAfter right rest hrest _ hafter hnode (binds_binary.2 hle) hcloses'
    exact ⟨by rw [ha.append, lexemes, List.append_assoc, List.cons_append, hs.append], ha.grouped,
      ha.binds, ha.stops, ha.closes⟩
  case case7 =>
    intro level left op position more ending hlt r h hgrouped hbinds hcloses
    rw [parseAfter, if_neg hlt] at h
    cases h
    exact ⟨rfl, hgrouped, hbinds, Nat.lt_of_not_le hlt, hcloses⟩
  case case8 =>
    intro ending level left lexemes hop hfault r h hgrouped hbinds hcloses
    rw [parseAfter] at h
    · cases h
      exact ⟨rfl, hgrouped, hbinds, heads_of_not_operator hop, hcloses⟩
    · exact hop
    · exact hfault

/-! ### Rows are parsed -/

variable {ending : Ending} {lexemes rest more : List Lexeme} {expr : Expr}

/-- Parsing from the front of a row gives a tree and leaves the rest. -/
def ReadsFrom (ending : Ending) (level : Nat) (lexemes : List Lexeme) (expr : Expr)
    (rest : List Lexeme) : Prop :=
  ∃ h, parseFrom ending level lexemes = .ok (expr, ⟨rest, h⟩)

/-- Parsing on after a tree gives a tree and leaves the rest. -/
def ReadsAfter (ending : Ending) (level : Nat) (left : Expr) (lexemes : List Lexeme) (expr : Expr)
    (rest : List Lexeme) : Prop :=
  ∃ h, parseAfter ending level left lexemes = .ok (expr, ⟨rest, h⟩)

theorem ReadsFrom.length_lt (h : ReadsFrom ending level lexemes expr rest) :
    rest.length < lexemes.length :=
  h.1

theorem ReadsFrom.operand {value : String}
    (h : ReadsAfter ending level (.operand value position) more expr rest) :
    ReadsFrom ending level (⟨.operand value, position⟩ :: more) expr rest := by
  obtain ⟨hle, h⟩ := h
  refine ⟨by simp only [List.length_cons]; omega, ?_⟩
  rw [parseFrom, h]
  rfl

theorem ReadsFrom.inverted {rest' : List Lexeme} (hinner : ReadsFrom ending 5 more inner rest)
    (h : ReadsAfter ending level (.inverted position inner) rest expr rest') :
    ReadsFrom ending level (⟨.operator (.compare .like), position⟩ :: more) expr rest' := by
  obtain ⟨hlt, hinner⟩ := hinner
  obtain ⟨hle, h⟩ := h
  refine ⟨by simp only [List.length_cons]; omega, ?_⟩
  have hinner' : parseFrom ending (Operator.compare .like).level more = _ := hinner
  rw [parseFrom, hinner', ok_bind]
  simp only [h]
  rfl

theorem ReadsAfter.operator {rest' : List Lexeme} (hle : level ≤ op.level)
    (hright : ReadsFrom ending op.rightLevel more right rest)
    (h : ReadsAfter ending level (.binary op position left right) rest expr rest') :
    ReadsAfter ending level left (⟨.operator op, position⟩ :: more) expr rest' := by
  obtain ⟨hlt, hright⟩ := hright
  obtain ⟨hle', h⟩ := h
  refine ⟨by simp only [List.length_cons]; omega, ?_⟩
  rw [parseAfter, if_pos hle, hright, ok_bind]
  simp only [h]
  rfl

/-- Parsing stops before an operator of a lower level, before an operand, and at the end of a row
without a fault. -/
theorem ReadsAfter.stop (hstops : Heads (· < level) lexemes)
    (hend : ∀ fault, lexemes = [] → ending ≠ .faulty fault) :
    ReadsAfter ending level left lexemes left lexemes := by
  refine ⟨Nat.le_refl _, ?_⟩
  match lexemes, hstops, hend with
  | ⟨.operator op, position⟩ :: more, hstops, _ =>
    rw [parseAfter, if_neg (Nat.not_le_of_lt hstops)]
    rfl
  | ⟨.operand value, position⟩ :: more, _, _ =>
    rw [parseAfter]
    · rfl
    · intro _ _ _ h
      cases h
    · intro _ h
      cases h
  | [], _, hend =>
    rw [parseAfter]
    · rfl
    · intro _ _ _ h
      cases h
    · intro fault _ h
      exact hend fault rfl h

/-- A row of a text without a fault is parsed up to the end or to an operator. -/
theorem exists_reads (stop bound : Nat) :
    (∀ (lexemes : List Lexeme) (level : Nat), lexemes.length ≤ bound →
      Token.IsRow (lexemes.map Lexeme.token) → ∃ expr rest,
        ReadsFrom (.complete stop) level lexemes expr rest ∧
          Token.IsRest (rest.map Lexeme.token)) ∧
    ∀ (lexemes : List Lexeme) (level : Nat) (left : Expr), lexemes.length ≤ bound →
      Token.IsRest (lexemes.map Lexeme.token) → ∃ expr rest,
        ReadsAfter (.complete stop) level left lexemes expr rest ∧
          Token.IsRest (rest.map Lexeme.token) := by
  -- on the number of lexemes, as parsing goes on with what an operand or an inner tree leaves
  induction bound with
  | zero =>
    refine ⟨fun lexemes level hlen hrow => ?_, fun lexemes level left hlen _ => ?_⟩
    · rw [List.eq_nil_of_length_eq_zero (Nat.le_zero.1 hlen)] at hrow
      rcases hrow.cases with ⟨_, _, h, _⟩ | ⟨_, h, _⟩ <;> cases h
    · rw [List.eq_nil_of_length_eq_zero (Nat.le_zero.1 hlen)]
      exact ⟨left, [], .stop trivial (by simp), trivial⟩
  | succ bound ih =>
    obtain ⟨ihFrom, ihAfter⟩ := ih
    refine ⟨fun lexemes level hlen hrow => ?_, fun lexemes level left hlen hrest => ?_⟩
    · match lexemes, hlen, hrow with
      | [], _, hrow => rcases hrow.cases with ⟨_, _, h, _⟩ | ⟨_, h, _⟩ <;> cases h
      | ⟨token, position⟩ :: more, hlen, hrow =>
        simp only [List.length_cons] at hlen
        rcases hrow.cases with ⟨value, tokens, h, hrest⟩ | ⟨tokens, h, hrow⟩
        · -- an operand
          cases h
          obtain ⟨expr, rest, hreads, hrest⟩ :=
            ihAfter more level (.operand value position) (by omega) hrest
          exact ⟨expr, rest, .operand hreads, hrest⟩
        · -- a `~`, what it inverts, and the operators after both
          cases h
          obtain ⟨inner, rest, hinner, hrest⟩ := ihFrom more 5 (by omega) hrow
          obtain ⟨expr, rest', hreads, hrest'⟩ := ihAfter rest level (.inverted position inner)
            (by have := hinner.length_lt; omega) hrest
          exact ⟨expr, rest', hinner.inverted hreads, hrest'⟩
    · match lexemes, hlen, hrest with
      | [], _, _ => exact ⟨left, [], .stop trivial (by simp), trivial⟩
      | ⟨.operator op, position⟩ :: more, hlen, hrow =>
        simp only [List.length_cons] at hlen
        -- an operator of a lower level ends the tree
        by_cases hle : level ≤ op.level
        · obtain ⟨right, rest, hright, hrest⟩ := ihFrom more op.rightLevel (by omega) hrow
          obtain ⟨expr, rest', hreads, hrest'⟩ := ihAfter rest level
            (.binary op position left right) (by have := hright.length_lt; omega) hrest
          exact ⟨expr, rest', .operator hle hright hreads, hrest'⟩
        · exact ⟨left, _, .stop (Nat.lt_of_not_le hle) (by simp), hrow⟩

/-! ### Grouped trees are parsed -/

/-- A grouped tree is read off the front of its own tokens, up to what it does not take in. -/
theorem reads_lexemes_append {e : Expr} {rest' : List Lexeme} (hgrouped : e.IsGrouped)
    (hbinds : e.Binds level) (hcloses : Heads e.Closes rest)
    (hend : ∀ fault, rest = [] → ending ≠ .faulty fault)
    (h : ReadsAfter ending level e rest expr rest') :
    ReadsFrom ending level (e.lexemes ++ rest) expr rest' := by
  induction e generalizing level rest expr rest' with
  | operand value position => exact .operand h
  | inverted position inner ih =>
    refine ReadsFrom.inverted (ih hgrouped.1 hgrouped.2 ?_ hend (.stop ?_ hend)) h
    · exact hcloses.imp (fun _ hn => hn.2)
    · exact hcloses.imp (fun _ hn => hn.1)
  | binary op position left right ihl ihr =>
    obtain ⟨hl, hr, hleft, hright⟩ := isGrouped_binary.1 hgrouped
    rw [lexemes, List.append_assoc, List.cons_append]
    -- the left child is read first, at the level of the whole tree
    have hle : level ≤ op.level := binds_binary.1 hbinds
    refine ihl hl (hleft.binds.mono hle) hleft (by simp) (.operator hle ?_ h)
    refine ihr hr hright ?_ hend (.stop ?_ hend)
    · exact hcloses.imp (fun _ hn => hn.2)
    · exact hcloses.imp (fun _ hn => hn.1)

/-! ### Rows and trees -/

variable {row : Scan} {stop : Nat}

/-- A tree that is parsed reads as the row, and is grouped. -/
theorem lexemes_of_parseLexemes (h : parseLexemes row = .ok expr) :
    expr.lexemes = row.lexemes ∧ expr.IsGrouped := by
  unfold parseLexemes at h
  split at h
  · cases h
  · obtain ⟨⟨tree, ⟨rest, hlt⟩⟩, hparse, h⟩ := bind_eq_ok.1 h
    have hs := starts_of_parse.1 _ _ _ _ hparse
    cases rest with
    | nil =>
      cases h
      exact ⟨by simpa using hs.append, hs.grouped⟩
    | cons lexeme rest => cases h

theorem parseLexemes_of_reads (h : ReadsFrom row.ending 0 row.lexemes expr []) :
    parseLexemes row = .ok expr := by
  obtain ⟨hlt, hparse⟩ := h
  unfold parseLexemes
  split
  · next hnil => simp [hnil] at hlt
  · rw [hparse]
    rfl

/-- Every operator has level 0 at least, so parsing does not stop before one. -/
theorem eq_nil_of_reads (hreads : ReadsFrom ending 0 lexemes expr rest)
    (hrest : Token.IsRest (rest.map Lexeme.token)) : rest = [] := by
  obtain ⟨hlt, hparse⟩ := hreads
  have hstops : Heads (· < 0) rest := (starts_of_parse.1 _ _ _ _ hparse).stops
  clear hparse hlt
  match rest, hrest, hstops with
  | [], _, _ => rfl
  | ⟨.operator op, _⟩ :: _, _, hstops => exact absurd hstops (Nat.not_lt_zero _)

theorem exists_parseLexemes (hend : row.ending = .complete stop)
    (hrow : Token.IsRow (row.lexemes.map Lexeme.token)) :
    ∃ expr, parseLexemes row = .ok expr := by
  obtain ⟨expr, rest, hreads, hrest⟩ :=
    (exists_reads stop row.lexemes.length).1 row.lexemes 0 (Nat.le_refl _) hrow
  cases eq_nil_of_reads hreads hrest
  exact ⟨expr, parseLexemes_of_reads (hend ▸ hreads)⟩

/-- A grouped tree is what its own tokens are parsed into. -/
theorem parseLexemes_of_isGrouped (hend : row.ending = .complete stop)
    (hgrouped : expr.IsGrouped) (hlex : expr.lexemes = row.lexemes) :
    parseLexemes row = .ok expr := by
  have hend' : ∀ fault, ([] : List Lexeme) = [] → row.ending ≠ .faulty fault := by
    simp [hend]
  have hreads : ReadsFrom row.ending 0 (expr.lexemes ++ []) expr [] :=
    reads_lexemes_append hgrouped (fun o _ => Nat.zero_le _) trivial hend' (.stop trivial hend')
  rw [List.append_nil, hlex] at hreads
  exact parseLexemes_of_reads hreads

/-- Grouped trees with the same tokens are equal. -/
theorem eq_of_lexemes_eq {other : Expr} (hexpr : expr.IsGrouped) (hother : other.IsGrouped)
    (h : other.lexemes = expr.lexemes) : other = expr := by
  -- one row of tokens is parsed into both
  let row : Scan := ⟨expr.lexemes, .complete 0⟩
  have h₁ : parseLexemes row = .ok expr := parseLexemes_of_isGrouped rfl hexpr rfl
  have h₂ : parseLexemes row = .ok other := parseLexemes_of_isGrouped rfl hother h
  exact Except.ok.inj (h₂.symm.trans h₁)

theorem parse_eq_ok {text cleaned : String} :
    parse text = .ok (expr, cleaned) ↔
      parseLexemes (scan (Text.clean text)) = .ok expr ∧ cleaned = Text.clean text := by
  unfold parse
  simp only
  split
  · next e he => simp [he, eq_comm]
  · next cause hc => simp [hc]

/-- **Expressions have one tree.** A text whose tokens all lex is an expression exactly if its row
of tokens is one. Its tree reads as the row, is grouped as the levels demand, and is the only such
tree. -/
theorem parse_of_complete (text : String)
    (h : (scan (Text.clean text)).ending = .complete stop) :
    let row := (scan (Text.clean text)).lexemes
    (row = [] → parse text = .error ⟨Text.clean text, .emptyQuery⟩) ∧
      ((∃ parsed, parse text = .ok parsed) ↔ Token.IsRow (row.map Lexeme.token)) ∧
      ∀ expr cleaned, parse text = .ok (expr, cleaned) →
        cleaned = Text.clean text ∧ expr.lexemes = row ∧ expr.IsGrouped ∧
          ∀ other : Expr, other.lexemes = row → other.IsGrouped → other = expr := by
  intro row
  refine ⟨fun hnil => ?_, ⟨?_, fun hrow => ?_⟩, fun expr cleaned hparse => ?_⟩
  · have hlex : (scan (Text.clean text)).lexemes = [] := hnil
    simp [parse, parseLexemes, hlex, h, atEnding]
  · rintro ⟨⟨expr, cleaned⟩, hparse⟩
    have hlex : expr.lexemes = row := (lexemes_of_parseLexemes (parse_eq_ok.1 hparse).1).1
    rw [← hlex, map_token_lexemes]
    exact isRow_tokens expr
  · obtain ⟨expr, hexpr⟩ := exists_parseLexemes h hrow
    exact ⟨_, parse_eq_ok.2 ⟨hexpr, rfl⟩⟩
  · obtain ⟨htree, hcleaned⟩ := parse_eq_ok.1 hparse
    obtain ⟨hlex, hgrouped⟩ := lexemes_of_parseLexemes htree
    exact ⟨hcleaned, hlex, hgrouped, fun other hother hgrouped' =>
      eq_of_lexemes_eq hgrouped hgrouped' (hother.trans hlex.symm)⟩

/-- A `~` inside a lookup takes in the comparison, but not the filter after it. -/
theorem parse_like_within_lookup : ∃ expr,
    parse "a : ~ b = c & d" = .ok (expr, "a : ~ b = c & d") ∧ expr.IsGrouped := by
  have hend : (scan (Text.clean "a : ~ b = c & d")).ending = .complete 15 := by decide +kernel
  obtain ⟨-, haccepts, htree⟩ := parse_of_complete "a : ~ b = c & d" hend
  have hrow : (scan (Text.clean "a : ~ b = c & d")).lexemes.map Lexeme.token =
      [.operand "a"] ++ .operator .chain :: ([.operator (.compare .like), .operand "b"] ++
        .operator (.compare .equal) :: ([.operand "c"] ++ .operator (.combine .and) ::
          [.operand "d"])) := by
    decide +kernel
  obtain ⟨⟨expr, cleaned⟩, h⟩ := haccepts.2 (hrow ▸ .more _ ⟨0, "a", rfl⟩ (.more _ ⟨1, "b", rfl⟩
    (.more _ ⟨0, "c", rfl⟩ (.primary ⟨0, "d", rfl⟩))))
  obtain ⟨hcleaned, -, hgrouped, -⟩ := htree expr cleaned h
  have hclean : Text.clean "a : ~ b = c & d" = "a : ~ b = c & d" := by decide +kernel
  exact ⟨expr, by rw [h, hcleaned, hclean], hgrouped⟩

end Expr

end Axial
