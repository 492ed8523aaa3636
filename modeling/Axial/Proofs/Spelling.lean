import Axial.Token

/-!
# The spelling of tokens

A row of tokens that is written on one line is read back as the same tokens.

* `Text.IsWritable` : the names that keep their characters when they are written and read back.
* `Token.cleanFrom_chars`, `scanFrom_chars` : what cleaning and scanning make of a written token.
* `Token.scan_line` : a row of tokens on one line.
* `isWritable_of_scan_clean` : the names in a cleaned text are writable.
-/

namespace Axial

namespace Text

/-- A name that is not empty and whose only blanks are plain spaces. -/
def IsWritable (name : String) : Prop :=
  name ≠ "" ∧ ∀ c ∈ name.toList, isBlank c = true → c = ' '

instance (name : String) : Decidable (IsWritable name) :=
  @instDecidableAnd _ _ _ (List.decidableBAll _ name.toList)

theorem IsWritable.toList_ne_nil {name : String} (h : IsWritable name) : name.toList ≠ [] :=
  fun hnil => h.1 (String.toList_eq_nil_iff.1 hnil)

/-! ### Cleaning -/

variable {started : Bool} {gap : Gap} {c : Char} {rest : List Char}

theorem closed_ne_comment : Gap.closed ≠ .comment := nofun

/-- A character that is neither blank, nor starts a comment or an escape, is kept. -/
theorem cleanFrom_plain (hgap : gap ≠ .comment) (hhash : c ≠ '#') (hblank : isBlank c = false)
    (hslash : c ≠ '\\') :
    cleanFrom started gap (c :: rest) = gap.space started ++ c :: cleanFrom true .closed rest := by
  cases rest with
  | nil => simp [cleanFrom, hhash, hblank, hslash]
  | cons d rest => simp [cleanFrom, hhash, hblank, hslash]

theorem cleanFrom_safe (hgap : gap ≠ .comment) (hsafe : isSafe c = true)
    (hblank : isBlank c = true → c = ' ') :
    cleanFrom started gap (c :: rest) = gap.space started ++ c :: cleanFrom true .closed rest := by
  have hne : ∀ d, isSafe d = false → c ≠ d := by
    rintro d hd rfl
    rw [hsafe] at hd
    cases hd
  have hnot : isBlank c = false := by
    rw [← Bool.not_eq_true]
    exact fun hc => hne ' ' isSafe_space (hblank hc)
  exact cleanFrom_plain hgap (hne '#' (by decide)) hnot (hne '\\' isSafe_backslash)

theorem cleanFrom_escaped (hgap : gap ≠ .comment) (hblank : isBlank c = true → c = ' ') :
    cleanFrom started gap ('\\' :: c :: rest) =
      gap.space started ++ '\\' :: c :: cleanFrom true .closed rest := by
  have hkept : (if isBlank c = true then ' ' else c) = c := by
    split
    · next h => exact (hblank h).symm
    · rfl
  simp [cleanFrom, hkept, show isBlank '\\' = false by decide]

/-- What follows a character that was kept stays next to it. -/
theorem cleanFrom_escapeChars {name : List Char} (h : ∀ c ∈ name, isBlank c = true → c = ' ') :
    cleanFrom true .closed (escapeChars name ++ rest) =
      escapeChars name ++ cleanFrom true .closed rest := by
  induction name with
  | nil => rfl
  | cons c name ih =>
    have hblank := h c List.mem_cons_self
    replace ih := ih fun d hd => h d (List.mem_cons_of_mem _ hd)
    rw [escapeChars]
    split
    · next hsafe =>
      rw [List.cons_append, cleanFrom_safe closed_ne_comment hsafe hblank, ih]
      rfl
    · rw [List.cons_append, List.cons_append, cleanFrom_escaped closed_ne_comment hblank, ih]
      rfl

theorem cleanFrom_name {name : String} (h : IsWritable name) (hgap : gap ≠ .comment) :
    cleanFrom started gap (escapeChars name.toList ++ rest) =
      gap.space started ++ (escapeChars name.toList ++ cleanFrom true .closed rest) := by
  obtain ⟨c, cs, hname⟩ := List.exists_cons_of_ne_nil h.toList_ne_nil
  have hblank := h.2
  rw [hname] at hblank ⊢
  have hcs : cleanFrom true .closed (escapeChars cs ++ rest) =
      escapeChars cs ++ cleanFrom true .closed rest :=
    cleanFrom_escapeChars fun d hd => hblank d (List.mem_cons_of_mem _ hd)
  replace hblank := hblank c List.mem_cons_self
  rw [escapeChars]
  split
  · next hsafe => rw [List.cons_append, cleanFrom_safe hgap hsafe hblank, hcs, List.cons_append]
  · rw [List.cons_append, List.cons_append, cleanFrom_escaped hgap hblank, hcs]
    rfl

/-- The characters of operators have no other use. -/
theorem plain_of_mem_symbol {op : Operator} (h : c ∈ op.symbol.toList) :
    c ≠ '#' ∧ isBlank c = false ∧ c ≠ '\\' ∧ isSafe c = false := by
  have hall : op.symbol.toList.all (fun c =>
      c ≠ '#' ∧ isBlank c = false ∧ c ≠ '\\' ∧ isSafe c = false) = true := by
    cases op with
    | combine combinator => cases combinator <;> decide
    | compare comparison => cases comparison <;> decide
    | _ => decide
  exact of_decide_eq_true (List.all_eq_true.1 hall c h)

theorem cleanFrom_symbol (op : Operator) (hgap : gap ≠ .comment) :
    cleanFrom started gap (op.symbol.toList ++ rest) =
      gap.space started ++ (op.symbol.toList ++ cleanFrom true .closed rest) := by
  have hall : ∀ cs : List Char,
      (∀ c ∈ cs, c ≠ '#' ∧ isBlank c = false ∧ c ≠ '\\' ∧ isSafe c = false) →
      cleanFrom true .closed (cs ++ rest) = cs ++ cleanFrom true .closed rest := by
    intro cs hcs
    induction cs with
    | nil => rfl
    | cons c cs ih =>
      obtain ⟨hhash, hblank, hslash, -⟩ := hcs c List.mem_cons_self
      rw [List.cons_append, cleanFrom_plain closed_ne_comment hhash hblank hslash,
        ih fun d hd => hcs d (List.mem_cons_of_mem _ hd)]
      rfl
  obtain ⟨c, cs, hsymbol⟩ := List.exists_cons_of_ne_nil op.symbol_ne_nil
  have hplain : ∀ c ∈ op.symbol.toList,
      c ≠ '#' ∧ isBlank c = false ∧ c ≠ '\\' ∧ isSafe c = false :=
    fun _ => plain_of_mem_symbol
  rw [hsymbol] at hplain ⊢
  obtain ⟨hhash, hblank, hslash, -⟩ := hplain c List.mem_cons_self
  rw [List.cons_append, cleanFrom_plain hgap hhash hblank hslash,
    hall cs fun d hd => hplain d (List.mem_cons_of_mem _ hd)]
  rfl

end Text

/-! ### Rows of tokens -/

namespace Token

/-- Whether the name of an operand is writable. -/
def IsWritable : Token → Prop
  | operand name => Text.IsWritable name
  | operator _ => True

/-- A token stays as it is written. -/
theorem cleanFrom_chars {token : Token} {started : Bool} {gap : Text.Gap} {rest : List Char}
    (h : token.IsWritable) (hgap : gap ≠ .comment) :
    Text.cleanFrom started gap (token.chars ++ rest) =
      gap.space started ++ (token.chars ++ Text.cleanFrom true .closed rest) := by
  cases token with
  | operand name => exact Text.cleanFrom_name h hgap
  | operator op => exact Text.cleanFrom_symbol op hgap

/-- Tokens with a space before each. -/
def spaced (tokens : List Token) : List Char :=
  tokens.flatMap fun token => ' ' :: token.chars

theorem toList_line (token : Token) (tokens : List Token) :
    (line (token :: tokens)).toList = token.chars ++ spaced tokens := by
  rw [line, String.toList_ofList]
  induction tokens generalizing token with
  | nil => simp [spaced]
  | cons next tokens ih =>
    have := ih next
    simp_all [spaced, List.intercalate]

end Token

/-! ### Scanning -/

/-- A text that a token does not run into: it is empty or starts with a space. -/
def Breaks : List Char → Prop
  | [] => True
  | c :: _ => c = ' '

variable {rest : List Char}

theorem Text.operandSpan_of_breaks (h : Breaks rest) : operandSpan rest = ([], rest) := by
  cases rest with
  | nil => rfl
  | cons c cs =>
    cases h
    rw [operandSpan]
    · rfl
    · rintro _ _ ⟨⟩

theorem Text.operandSpan_escapeChars (name : List Char) (h : Breaks rest) :
    operandSpan (escapeChars name ++ rest) = (escapeChars name, rest) := by
  induction name with
  | nil => exact operandSpan_of_breaks h
  | cons c name ih =>
    rw [escapeChars]
    split
    · next hsafe =>
      rw [List.cons_append, operandSpan, if_pos hsafe, ih]
      rintro _ _ rfl
      exact absurd rfl (ne_backslash_of_isSafe hsafe)
    · rw [List.cons_append, List.cons_append, operandSpan, ih]

theorem Operator.read?_symbol (op : Operator) (h : Breaks rest) :
    read? (op.symbol.toList ++ rest) = some (op, rest) := by
  cases rest with
  | nil =>
    cases op with
    | combine combinator => cases combinator <;> rfl
    | compare comparison => cases comparison <;> rfl
    | _ => rfl
  | cons c cs =>
    cases h
    cases op with
    | combine combinator => cases combinator <;> rfl
    | compare comparison => cases comparison <;> rfl
    | _ => rfl

/-- A written token is read back. -/
theorem scanFrom_chars {token : Token} (position : Nat) (htoken : token.IsWritable)
    (h : Breaks rest) :
    scanFrom position (token.chars ++ rest) =
      (scanFrom (position + token.chars.length) rest).cons ⟨token, position⟩ := by
  cases token with
  | operand name =>
    have hspan := Text.operandSpan_escapeChars name.toList h
    have hvalue : String.ofList (Text.unescapeChars (Text.escapeChars name.toList)) = name := by
      rw [Text.unescapeChars_escapeChars, String.ofList_toList]
    have hne : rest ≠ ['\\'] := by
      rintro rfl
      exact absurd (show '\\' = ' ' from h) (by decide)
    -- the first character decides what is scanned: it is safe, or starts an escape
    obtain ⟨c, cs, hchars, hc, hspace⟩ : ∃ c cs, Text.escapeChars name.toList = c :: cs ∧
        (c = '\\' ∨ Text.isSafe c = true) ∧ c ≠ ' ' := by
      obtain ⟨c, cs, hname⟩ := List.exists_cons_of_ne_nil htoken.toList_ne_nil
      rw [hname, Text.escapeChars]
      split
      · next hsafe =>
        refine ⟨c, _, rfl, .inr hsafe, ?_⟩
        rintro rfl
        simp at hsafe
      · exact ⟨'\\', _, rfl, .inl rfl, by decide⟩
    rw [hchars, List.cons_append] at hspan
    rw [hchars] at hvalue
    rw [Token.chars, hchars, List.cons_append]
    rw [scanFrom, if_neg hspace, dif_pos hc, dif_neg (by rw [hspan]; exact hne), hspan]
    simp only [hvalue]
  | operator op =>
    obtain ⟨c, cs, hsymbol⟩ := List.exists_cons_of_ne_nil op.symbol_ne_nil
    have hread := op.read?_symbol h
    have hc : c ∈ op.symbol.toList := hsymbol ▸ List.mem_cons_self
    obtain ⟨-, hblank, hslash, hsafe⟩ := Text.plain_of_mem_symbol hc
    have hspace : c ≠ ' ' := by
      rintro rfl
      cases hblank
    rw [hsymbol, List.cons_append] at hread
    rw [Token.chars, hsymbol, List.cons_append, scanFrom, if_neg hspace,
      dif_neg (by simp [hslash, hsafe])]
    split
    · next op' rest' hop =>
      rw [hread] at hop
      cases hop
      rw [← String.length_toList, hsymbol]
    · next hop =>
      rw [hread] at hop
      cases hop

/-- The lexemes of a row of tokens on one line, whose first token has the given offset. -/
def Token.lexemesFrom (position : Nat) : List Token → List Lexeme
  | [] => []
  | token :: tokens => ⟨token, position⟩ :: lexemesFrom (position + token.chars.length + 1) tokens

@[simp] theorem Token.map_token_lexemesFrom (position : Nat) (tokens : List Token) :
    (lexemesFrom position tokens).map Lexeme.token = tokens := by
  induction tokens generalizing position with
  | nil => rfl
  | cons token tokens ih => rw [lexemesFrom, List.map_cons, ih]

theorem breaks_spaced (tokens : List Token) : Breaks (Token.spaced tokens) := by
  cases tokens with
  | nil => trivial
  | cons token tokens => exact rfl

theorem scanFrom_spaced {tokens : List Token} (position : Nat)
    (h : ∀ token ∈ tokens, token.IsWritable) :
    scanFrom position (Token.spaced tokens) =
      ⟨Token.lexemesFrom (position + 1) tokens,
        .complete (position + (Token.spaced tokens).length)⟩ := by
  induction tokens generalizing position with
  | nil => rw [Token.spaced, List.flatMap_nil, scanFrom]; rfl
  | cons token tokens ih =>
    have hspaced : Token.spaced (token :: tokens) = ' ' :: (token.chars ++ Token.spaced tokens) :=
      rfl
    rw [hspaced, scanFrom, if_pos rfl,
      scanFrom_chars _ (h token List.mem_cons_self) (breaks_spaced tokens),
      ih _ fun t ht => h t (List.mem_cons_of_mem _ ht), Scan.cons, Token.lexemesFrom]
    simp [Nat.add_assoc, Nat.add_comm, Nat.add_left_comm]

/-- A row of tokens on one line is read back as the same tokens. -/
theorem Token.scan_line {tokens : List Token} (h : ∀ token ∈ tokens, token.IsWritable) :
    scan (line tokens) = ⟨lexemesFrom 0 tokens, .complete (line tokens).toList.length⟩ := by
  rw [scan]
  cases tokens with
  | nil => exact scanFrom.eq_1 0
  | cons token tokens =>
    rw [toList_line, scanFrom_chars 0 (h token List.mem_cons_self) (breaks_spaced tokens),
      scanFrom_spaced _ fun t ht => h t (List.mem_cons_of_mem _ ht), Scan.cons, lexemesFrom]
    simp

/-! ### Scanned names -/

namespace Text

/-- The only blanks that cleaning leaves are plain spaces. -/
theorem eq_space_of_mem_cleanFrom {started : Bool} {gap : Gap} {cs : List Char} {c : Char}
    (hc : c ∈ cleanFrom started gap cs) (hblank : isBlank c = true) : c = ' ' := by
  have hslash : isBlank '\\' = false := by decide
  have hspace : ∀ (started : Bool) (gap : Gap), c ∈ gap.space started → c = ' ' := by
    intro started gap h
    unfold Gap.space at h
    split at h
    · cases h
    · split at h
      · exact List.mem_singleton.1 h
      · cases h
  fun_induction cleanFrom started gap cs <;> grind

/-- The blanks of a cleaned text are plain spaces. -/
theorem eq_space_of_mem_clean {text : String} {c : Char} (hc : c ∈ (clean text).toList)
    (hblank : isBlank c = true) : c = ' ' := by
  rw [clean, String.toList_ofList] at hc
  exact eq_space_of_mem_cleanFrom hc hblank

theorem mem_of_mem_unescapeChars {cs : List Char} {c : Char} (h : c ∈ unescapeChars cs) :
    c ∈ cs := by
  fun_induction unescapeChars cs <;> grind

theorem unescapeChars_ne_nil {cs : List Char} (h : cs ≠ []) : unescapeChars cs ≠ [] := by
  fun_cases unescapeChars cs <;> simp_all

end Text

/-- The names in a text whose only blanks are plain spaces are writable. -/
theorem isWritable_of_mem_scanFrom {position : Nat} {cs : List Char} {lexeme : Lexeme}
    (h : lexeme ∈ (scanFrom position cs).lexemes)
    (hcs : ∀ c ∈ cs, Text.isBlank c = true → c = ' ') : lexeme.token.IsWritable := by
  fun_induction scanFrom position cs with
  | case1 => cases h
  | case2 position cs ih => exact ih h fun c hc => hcs c (List.mem_cons_of_mem _ hc)
  | case3 => cases h
  | case4 position c cs hspace hc run hne ih =>
    -- the characters of a name are among those of its run
    have happend : run ++ (Text.operandSpan (c :: cs)).2 = c :: cs := Text.operandSpan_append _
    rcases List.mem_cons.1 h with rfl | h
    · refine ⟨fun hempty => ?_, fun d hd hblank => ?_⟩
      · have hrun : run ≠ [] := Text.operandSpan_fst_ne_nil hc hne
        exact Text.unescapeChars_ne_nil hrun (by simpa using hempty)
      · rw [String.toList_ofList] at hd
        have hmem : d ∈ run := Text.mem_of_mem_unescapeChars hd
        exact hcs d (happend ▸ List.mem_append_left _ hmem) hblank
    · exact ih h fun d hd => hcs d (happend ▸ List.mem_append_right _ hd)
  | case5 position c cs hspace hc op rest hop ih =>
    rcases List.mem_cons.1 h with rfl | h
    · trivial
    · refine ih h fun d hd => hcs d ?_
      rw [Operator.read?_eq_append hop]
      exact List.mem_append_right _ hd
  | case6 => cases h

/-- The names in a cleaned text are writable. -/
theorem isWritable_of_scan_clean {text : String} {lexeme : Lexeme}
    (h : lexeme ∈ (scan (Text.clean text)).lexemes) : lexeme.token.IsWritable :=
  isWritable_of_mem_scanFrom h fun _ => Text.eq_space_of_mem_clean

end Axial
