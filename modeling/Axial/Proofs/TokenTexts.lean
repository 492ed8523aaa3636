import Axial.Proofs.NormalText

/-!
# The texts of tokens

A scan goes over a cleaned text once, from its start to its end or to its first fault, and passes
over nothing but the single spaces between two tokens. So the text can be told from the tokens: it
is made up of the texts that they are read from.

* `Text.IsWord`, `Text.IsLongestWord` : the texts of operands.
* `Token.IsReadFrom` : a token is read from a text, with a given text after it.
* `Text.Covers` : tokens and single spaces make up a text, up to a rest.
* `Lexeme.StandsIn` : a token at its place in a text.
* `Token.scan_clean_covers` : what a scan covers, where it ends, and why.
* `Token.scan_normal_form` : what becomes of blanks and of `#`.
-/

namespace Axial

namespace Text

/-! ### Words -/

/-- Safe characters and escaped ones, each of these after its backslash. -/
inductive IsWord : List Char → Prop where
  | nil : IsWord []
  | safe {c : Char} {cs : List Char} : isSafe c = true → IsWord cs → IsWord (c :: cs)
  | escaped {c : Char} {cs : List Char} : IsWord cs → IsWord ('\\' :: c :: cs)

/-- A word that is not empty and takes in as much of the text as it can. -/
structure IsLongestWord (word rest : List Char) : Prop where
  isWord : IsWord word
  ne_nil : word ≠ []
  longest : ∀ more, more <+: rest → IsWord (word ++ more) → more = []

variable {word more rest cs : List Char} {c : Char} {spaced : Bool}

theorem IsWord.of_append (hword : IsWord word) (h : IsWord (word ++ more)) : IsWord more := by
  induction hword with
  | nil => exact h
  | safe hc _ ih =>
    rw [List.cons_append] at h
    generalize _ ++ more = following at h ih
    cases h with
    | safe _ h => exact ih h
    | escaped _ => simp at hc
  | escaped _ ih =>
    rw [List.cons_append, List.cons_append] at h
    cases h with
    | safe hslash _ => simp at hslash
    | escaped h => exact ih h

theorem IsWord.append (hword : IsWord word) (hmore : IsWord more) : IsWord (word ++ more) := by
  induction hword with
  | nil => exact hmore
  | safe hc _ ih => exact .safe hc ih
  | escaped _ ih => exact .escaped ih

theorem IsWord.isBalanced (h : IsWord word) : IsBalanced word := by
  induction h with
  | nil => exact isBalanced_nil
  | safe hc _ ih => exact (isBalanced_singleton (ne_backslash_of_isSafe hc)).append ih
  | escaped _ ih => exact (isBalanced_escape _).append ih

/-- What follows a word is kept if all of it is. -/
theorem IsKept.of_word (hword : IsWord word) (h : IsKept spaced (word ++ rest)) :
    IsKept true rest := by
  induction hword generalizing spaced with
  | nil => exact h.weaken
  | safe hc _ ih => exact ih (h.tail (ne_backslash_of_isSafe hc))
  | escaped _ ih => exact ih h.after_escape

theorem isWord_operandSpan (cs : List Char) : IsWord (operandSpan cs).1 := by
  fun_induction operandSpan cs with
  | case1 => exact .nil
  | case2 c cs run rest hspan ih => exact .escaped (by rwa [hspan] at ih)
  | case3 c cs _ hsafe run rest hspan ih => exact .safe hsafe (by rwa [hspan] at ih)
  | case4 => exact .nil

/-- A run stops at the end of the text, before a lone backslash, or before a character that is
neither safe nor a backslash. -/
theorem operandSpan_snd_cons {cs : List Char} (h : (operandSpan cs).2 = c :: rest) :
    c = '\\' ∧ rest = [] ∨ c ≠ '\\' ∧ isSafe c = false := by
  fun_induction operandSpan cs with
  | case1 => cases h
  | case2 c cs run rest hspan ih => exact ih (by rwa [hspan])
  | case3 c cs _ hsafe run rest hspan ih => exact ih (by rwa [hspan])
  | case4 d ds hslash hsafe =>
    cases h
    by_cases hc : c = '\\'
    · cases rest with
      | nil => exact .inl ⟨hc, rfl⟩
      | cons e rest => exact absurd rfl (hslash e rest hc)
    · exact .inr ⟨hc, Bool.eq_false_iff.2 hsafe⟩

theorem isLongestWord_operandSpan (hne : (operandSpan cs).1 ≠ []) :
    IsLongestWord (operandSpan cs).1 (operandSpan cs).2 where
  isWord := isWord_operandSpan cs
  ne_nil := hne
  longest more hmore h := by
    have hword := (isWord_operandSpan cs).of_append h
    obtain ⟨rest, hrest⟩ := hmore
    -- a word would start with a character at which a run does not stop
    cases hword with
    | nil => rfl
    | safe hc _ =>
      rcases operandSpan_snd_cons hrest.symm with ⟨rfl, -⟩ | ⟨-, hunsafe⟩
      · simp at hc
      · rw [hc] at hunsafe
        cases hunsafe
    | escaped _ =>
      rcases operandSpan_snd_cons hrest.symm with ⟨-, hnil⟩ | ⟨hslash, -⟩
      · cases hnil
      · exact absurd rfl hslash

end Text

/-! ### Symbols -/

namespace Operator

theorem length_symbol_pos (op : Operator) : 0 < op.symbol.length := by
  rw [← String.length_toList]
  exact List.length_pos_iff.2 op.symbol_ne_nil

/-- The characters that start two symbols are symbols themselves. -/
theorem read?_cons_ne_none {c : Char} (more : List Char) (hc : c = '%' ∨ c = '<' ∨ c = '>') :
    read? (c :: more) ≠ none := by
  unfold read?
  split
  case h_18 =>
    rcases hc with rfl | rfl | rfl
    · exact absurd rfl (‹∀ cs, '%' :: more = '%' :: cs → False› more)
    · exact absurd rfl (‹∀ cs, '<' :: more = '<' :: cs → False› more)
    · exact absurd rfl (‹∀ cs, '>' :: more = '>' :: cs → False› more)
  all_goals exact Option.some_ne_none _

/-- Where a symbol stands, an operator is read whose symbol is not shorter. -/
theorem exists_read?_symbol (op : Operator) (more : List Char) :
    ∃ longest rest, read? (op.symbol.toList ++ more) = some (longest, rest) ∧
      op.symbol.length ≤ longest.symbol.length := by
  have hshort : ∀ c, op.symbol.toList = [c] → c = '%' ∨ c = '<' ∨ c = '>' →
      ∃ longest rest, read? (op.symbol.toList ++ more) = some (longest, rest) ∧
        op.symbol.length ≤ longest.symbol.length := by
    intro c hsymbol hc
    obtain ⟨⟨longest, rest⟩, hread⟩ := Option.ne_none_iff_exists'.1 (read?_cons_ne_none more hc)
    refine ⟨longest, rest, hsymbol ▸ hread, ?_⟩
    rw [← String.length_toList, hsymbol]
    exact longest.length_symbol_pos
  cases op with
  | eltwise => exact hshort '%' rfl (.inl rfl)
  | combine combinator => cases combinator <;> exact ⟨_, _, rfl, Nat.le_refl _⟩
  | compare comparison =>
    cases comparison with
    | less => exact hshort '<' rfl (.inr (.inl rfl))
    | greater => exact hshort '>' rfl (.inr (.inr rfl))
    | _ => exact ⟨_, _, rfl, Nat.le_refl _⟩
  | _ => exact ⟨_, _, rfl, Nat.le_refl _⟩

theorem not_prefix_of_read?_eq_none {cs : List Char} (h : read? cs = none) (op : Operator) :
    ¬ op.symbol.toList <+: cs := by
  rintro ⟨more, rfl⟩
  obtain ⟨longest, rest, hread, -⟩ := op.exists_read?_symbol more
  cases h.symm.trans hread

/-- The symbol that is read is the longest one. -/
theorem length_symbol_le_of_read? {longest : Operator} {cs rest : List Char}
    (h : read? cs = some (longest, rest)) (op : Operator) (hop : op.symbol.toList <+: cs) :
    op.symbol.length ≤ longest.symbol.length := by
  obtain ⟨more, rfl⟩ := hop
  obtain ⟨_, _, hread, hlength⟩ := op.exists_read?_symbol more
  cases h.symm.trans hread
  exact hlength

end Operator

/-! ### Tokens and their texts -/

/-- A token is what a text stands for, given what follows: the value of an operand is read from its
longest word, and no operator with a longer symbol starts where the text starts. -/
def Token.IsReadFrom (text rest : List Char) : Token → Prop
  | operand value =>
    Text.IsLongestWord text rest ∧ value = Text.unescape (String.ofList text)
  | operator op =>
    text = op.symbol.toList ∧
      ∀ other : Operator, other.symbol.toList <+: text ++ rest →
        other.symbol.length ≤ op.symbol.length

/-- The position at which a row of tokens ends. -/
def Ending.position : Ending → Nat
  | complete position => position
  | faulty (.unexpectedCharacter _ position) => position
  | faulty (.danglingEscape position) => position

variable {position : Nat} {token : Token} {lexemes : List Lexeme}
  {text gap more rest before cs : List Char} {c : Char} {i : Nat}

namespace Text

/-- Nothing, or one space with something after it. -/
def IsGap (gap more : List Char) : Prop :=
  gap = [] ∨ gap = [' '] ∧ more ≠ []

/-- A text, whose first character has the given offset, is made up of the texts of some tokens with
gaps between them, up to a rest. -/
inductive Covers : Nat → List Lexeme → List Char → List Char → Prop where
  | nil {position : Nat} {rest : List Char} : Covers position [] rest rest
  | cons {position : Nat} {token : Token} {lexemes : List Lexeme} {text gap more rest : List Char} :
      token.IsReadFrom text (gap ++ more) → IsGap gap more →
      Covers (position + text.length + gap.length) lexemes more rest →
      Covers position (⟨token, position⟩ :: lexemes) (text ++ (gap ++ more)) rest

theorem ne_backslash_of_mem_symbol {op : Operator} (h : c ∈ op.symbol.toList) : c ≠ '\\' :=
  (plain_of_mem_symbol h).2.2.1

/-- Nothing after the text of a token is escaped by it. -/
theorem isBalanced_of_isReadFrom (h : token.IsReadFrom text rest) : IsBalanced text := by
  cases token with
  | operand value => exact h.1.isWord.isBalanced
  | operator op =>
    obtain ⟨rfl, -⟩ := h
    exact not_isEscaped_of_plain (fun _ => ne_backslash_of_mem_symbol) _

theorem IsGap.isBalanced (h : IsGap gap more) : IsBalanced gap := by
  rcases h with rfl | ⟨rfl, -⟩
  · exact isBalanced_nil
  · exact isBalanced_singleton (by decide)

end Text

/-- What an ending tells of the rest of a text, whose first character has the given offset. -/
def Ending.Leaves (start : Nat) (rest : List Char) : Ending → Prop
  | complete position => position = start ∧ rest = []
  | faulty (.danglingEscape position) =>
    ∃ word, position = start + word.length ∧ rest = word ++ ['\\'] ∧ Text.IsWord word
  | faulty (.unexpectedCharacter c position) =>
    position = start ∧ (∃ more, rest = c :: more) ∧ Text.isSafe c = false ∧ c ≠ '\\' ∧
      c ≠ ' ' ∧ ∀ op : Operator, ¬ op.symbol.toList <+: rest

namespace Text

/-- The tokens of a text that is kept make it up, to its end or to where the scan stops. -/
theorem covers_scanFrom (position : Nat) (h : IsKept true cs) :
    ∃ gap more start rest, cs = gap ++ more ∧ IsGap gap more ∧
      Covers (position + gap.length) (scanFrom position cs).lexemes more rest ∧
      start + rest.length = position + cs.length ∧
      (scanFrom position cs).ending.Leaves start rest := by
  fun_induction scanFrom position cs with
  | case1 position => exact ⟨[], [], position, [], rfl, .inl rfl, .nil, rfl, rfl, rfl⟩
  | case2 position cs ih =>
    -- a single space: what follows starts with a token
    obtain ⟨gap, more, start, rest, hcs, hgap, hcovers, hstart, hleaves⟩ := ih (h.tail (by decide))
    cases h with
    | plain _ hblank _ _ => cases hblank
    | space hkept hne =>
      have hnil : gap = [] := by
        rcases hgap with hnil | ⟨rfl, -⟩
        · exact hnil
        · subst hcs
          exact absurd rfl hkept.ne_space
      subst hnil
      obtain rfl : cs = more := hcs
      refine ⟨[' '], cs, start, rest, rfl, .inr ⟨rfl, hne⟩, hcovers, ?_, hleaves⟩
      rw [hstart, List.length_cons, Nat.add_comm cs.length, ← Nat.add_assoc]
  | case3 position c cs hspace hc run hlone =>
    have hrun : run ++ ['\\'] = c :: cs := hlone ▸ operandSpan_append (c :: cs)
    exact ⟨[], c :: cs, position, c :: cs, rfl, .inl rfl, .nil, rfl, run, rfl, hrun.symm,
      isWord_operandSpan _⟩
  | case4 position c cs hspace hc run hne ih =>
    have hrun : run ++ (operandSpan (c :: cs)).2 = c :: cs := operandSpan_append (c :: cs)
    have hlongest : IsLongestWord run (operandSpan (c :: cs)).2 :=
      isLongestWord_operandSpan (operandSpan_fst_ne_nil hc hne)
    generalize (operandSpan (c :: cs)).2 = following at hrun hlongest ih
    rw [← hrun] at h ⊢
    obtain ⟨gap, more, start, rest, rfl, hgap, hcovers, hstart, hleaves⟩ :=
      ih (.of_word hlongest.isWord h)
    refine ⟨[], _, start, rest, rfl, .inl rfl, .cons ⟨hlongest, ?_⟩ hgap hcovers, ?_, hleaves⟩
    · rw [unescape, String.toList_ofList]
    · rw [List.length_append, ← Nat.add_assoc]
      exact hstart
  | case5 position c cs hspace hc op rest hop ih =>
    have hlongest := Operator.length_symbol_le_of_read? hop
    rw [Operator.read?_eq_append hop] at h hlongest ⊢
    obtain ⟨gap, more, start, rest, rfl, hgap, hcovers, hstart, hleaves⟩ :=
      ih (.of_plain (fun _ => ne_backslash_of_mem_symbol) h)
    rw [← String.length_toList] at hcovers hstart
    refine ⟨[], _, start, rest, rfl, .inl rfl, .cons ⟨rfl, hlongest⟩ hgap hcovers, ?_, hleaves⟩
    rw [List.length_append, ← Nat.add_assoc]
    exact hstart
  | case6 position c cs hspace hc hop =>
    obtain ⟨hslash, hsafe⟩ := not_or.1 hc
    exact ⟨[], c :: cs, position, c :: cs, rfl, .inl rfl, .nil, rfl, rfl, ⟨cs, rfl⟩,
      Bool.eq_false_iff.2 hsafe, hslash, hspace, Operator.not_prefix_of_read?_eq_none hop⟩

/-- What is covered comes before the rest and escapes nothing in it. -/
theorem Covers.exists_covered (h : Covers position lexemes cs rest) :
    ∃ covered, cs = covered ++ rest ∧ IsBalanced covered := by
  induction h with
  | nil => exact ⟨[], rfl, isBalanced_nil⟩
  | @cons position token lexemes text gap more rest hread hgap _ ih =>
    obtain ⟨covered, rfl, hcovered⟩ := ih
    refine ⟨text ++ (gap ++ covered), by simp only [List.append_assoc], ?_⟩
    exact (isBalanced_of_isReadFrom hread).append (hgap.isBalanced.append hcovered)

/-- A cleaned text is what its tokens make up, and a rest that is as the scan ends. -/
theorem covers_scan_clean (text : String) :
    ∃ covered rest, (clean text).toList = covered ++ rest ∧ IsBalanced covered ∧
      Covers 0 (scan (clean text)).lexemes (clean text).toList rest ∧
      (scan (clean text)).ending.Leaves covered.length rest := by
  have hkept := isKept_clean text
  obtain ⟨gap, more, start, rest, hquery, hgap, hcovers, hstart, hleaves⟩ :=
    covers_scanFrom 0 hkept.weaken
  rw [← scan] at hcovers hleaves
  -- no space stands first
  have hnil : gap = [] := by
    rcases hgap with hnil | ⟨rfl, -⟩
    · exact hnil
    · rw [hquery] at hkept
      exact absurd rfl hkept.ne_space
  subst hnil
  obtain rfl : (clean text).toList = more := hquery
  obtain ⟨covered, hcovered, hbalanced⟩ := hcovers.exists_covered
  refine ⟨covered, rest, hcovered, hbalanced, hcovers, ?_⟩
  rw [hcovered, Nat.zero_add, List.length_append] at hstart
  exact Nat.add_right_cancel hstart ▸ hleaves

/-! ### The places of tokens -/

/-- The last character of the text, if there is one, is neither safe nor escaped. -/
def EndsOutside (before : List Char) : Prop :=
  ∀ init c, before = init ++ [c] → isSafe c = false ∧ IsBalanced init

/-- A place where tokens may start: nothing before it escapes what follows, and a word that starts
there could not have started earlier. -/
structure IsBoundary (before rest : List Char) : Prop where
  balanced : IsBalanced before
  outside : ∀ word, word <+: rest → IsWord word → word ≠ [] → EndsOutside before

theorem endsOutside_append_singleton (hbefore : IsBalanced before) (hc : isSafe c = false) :
    EndsOutside (before ++ [c]) := by
  intro init d h
  obtain ⟨rfl, hd⟩ := List.append_inj' h rfl
  cases hd
  exact ⟨hc, hbefore⟩

theorem endsOutside_append_symbol (hbefore : IsBalanced before) (op : Operator) :
    EndsOutside (before ++ op.symbol.toList) := by
  have hlast := List.dropLast_concat_getLast op.symbol_ne_nil
  have hplain : ∀ c ∈ op.symbol.toList.dropLast, c ≠ '\\' :=
    fun c hc => ne_backslash_of_mem_symbol (List.dropLast_subset _ hc)
  rw [← hlast, ← List.append_assoc]
  exact endsOutside_append_singleton (hbefore.append (not_isEscaped_of_plain hplain _))
    (plain_of_mem_symbol (List.getLast_mem op.symbol_ne_nil)).2.2.2

theorem isBoundary_nil : IsBoundary [] cs where
  balanced := isBalanced_nil
  outside _ _ _ _ init c h := absurd h.symm (List.append_ne_nil_of_right_ne_nil init (by simp))

/-- After a token and the gap that follows it, the next token may start. -/
theorem IsBoundary.next (hbefore : IsBalanced before) (hread : token.IsReadFrom text (gap ++ more))
    (hgap : IsGap gap more) : IsBoundary (before ++ (text ++ gap)) more where
  balanced := hbefore.append ((isBalanced_of_isReadFrom hread).append hgap.isBalanced)
  outside word hword hisWord hne := by
    rcases hgap with rfl | ⟨rfl, -⟩
    · rw [List.append_nil]
      cases token with
      | operand value =>
        -- the word would go on
        exact absurd (hread.1.longest word hword (hread.1.isWord.append hisWord)) hne
      | operator op =>
        obtain ⟨rfl, -⟩ := hread
        exact endsOutside_append_symbol hbefore op
    · rw [← List.append_assoc]
      exact endsOutside_append_singleton (hbefore.append (isBalanced_of_isReadFrom hread))
        isSafe_space

end Text

/-- A token at its place in a text: the text that it is read from stands at its position, nothing
escapes the first character of that, and the word of an operand could not have started earlier. -/
structure Lexeme.StandsIn (query before text after : List Char) (lexeme : Lexeme) : Prop where
  append : query = before ++ (text ++ after)
  position : before.length = lexeme.position
  read : lexeme.token.IsReadFrom text after
  balanced : Text.IsBalanced before
  outside : ∀ value, lexeme.token = .operand value → Text.EndsOutside before

namespace Text

/-- The tokens of a text stand in it. -/
theorem Covers.standsIn (h : Covers position lexemes cs rest) (hbefore : IsBoundary before cs)
    (hposition : before.length = position) :
    ∀ lexeme ∈ lexemes, ∃ front text after, lexeme.StandsIn (before ++ cs) front text after := by
  induction h generalizing before with
  | nil => exact fun _ h => absurd h List.not_mem_nil
  | @cons position token lexemes text gap more rest hread hgap _ ih =>
    refine List.forall_mem_cons.2 ⟨⟨before, text, gap ++ more, rfl, hposition, hread,
      hbefore.balanced, ?_⟩, ?_⟩
    · rintro value rfl
      exact hbefore.outside text (List.prefix_append ..) hread.1.isWord hread.1.ne_nil
    · have hnext := ih (IsBoundary.next hbefore.balanced hread hgap) (by
        rw [List.length_append, List.length_append, hposition, Nat.add_assoc])
      rwa [List.append_assoc, List.append_assoc] at hnext

end Text

/-- A dangling backslash is the last character of its text, and nothing escapes it. -/
theorem Ending.Leaves.danglingEscape (hbefore : Text.IsBalanced before)
    (h : Ending.Leaves before.length rest (.faulty (.danglingEscape position))) :
    position + 1 = (before ++ rest).length ∧ (before ++ rest)[position]? = some '\\' ∧
      ¬ Text.IsEscaped (before ++ rest) position := by
  obtain ⟨word, rfl, rfl, hword⟩ := h
  rw [← List.append_assoc, ← List.length_append]
  refine ⟨?_, List.getElem?_concat_length, ?_⟩
  · simp only [List.length_append, List.length_singleton]
  · rw [Text.isEscaped_append_of_le (Nat.le_refl _)]
    exact hbefore.append hword.isBalanced

/-- **A scan loses nothing.** The tokens of a cleaned text make it up, with at most one space
between two of them: all of it, or what comes before a fault. A backslash is dangling only as the
last character of the text and if nothing escapes it; the word that it would go on is all that lies
between it and what the tokens make up. Any other fault is at a character with which neither a word
nor a symbol starts. Each token stands at its position, and its text is as long as can be. -/
theorem Token.scan_clean_covers (text : String) :
    let query := (Text.clean text).toList
    let row := scan (Text.clean text)
    (∀ stop, row.ending = .complete stop →
      stop = query.length ∧ Text.Covers 0 row.lexemes query []) ∧
    (∀ position, row.ending = .faulty (.danglingEscape position) →
      position + 1 = query.length ∧ query[position]? = some '\\' ∧
        ¬ Text.IsEscaped query position ∧
        ∃ start word, start + word.length = position ∧ query.drop start = word ++ ['\\'] ∧
          Text.IsWord word ∧ Text.Covers 0 row.lexemes query (query.drop start)) ∧
    (∀ c position, row.ending = .faulty (.unexpectedCharacter c position) →
      query[position]? = some c ∧ Text.isSafe c = false ∧ c ≠ '\\' ∧ c ≠ ' ' ∧
        (∀ op : Operator, ¬ op.symbol.toList <+: query.drop position) ∧
        Text.Covers 0 row.lexemes query (query.drop position)) ∧
    ∀ lexeme ∈ row.lexemes, ∃ before text after, lexeme.StandsIn query before text after := by
  intro query row
  obtain ⟨covered, rest, hquery, hcovered, hcovers, hleaves⟩ := Text.covers_scan_clean text
  change query = covered ++ rest at hquery
  change Text.Covers 0 row.lexemes query rest at hcovers
  change row.ending.Leaves covered.length rest at hleaves
  have hdrop : query.drop covered.length = rest := hquery ▸ List.drop_left
  refine ⟨fun stop hend => ?_, fun position hend => ?_, fun c position hend => ?_, ?_⟩
  · rw [hend] at hleaves
    obtain ⟨rfl, rfl⟩ := hleaves
    exact ⟨by rw [hquery, List.append_nil], hcovers⟩
  · rw [hend] at hleaves
    obtain ⟨hlast, hslash, hescaped⟩ := hleaves.danglingEscape hcovered
    obtain ⟨word, rfl, rfl, hword⟩ := hleaves
    rw [← hquery] at hlast hslash hescaped
    exact ⟨hlast, hslash, hescaped, _, word, rfl, hdrop, hword, hdrop.symm ▸ hcovers⟩
  · rw [hend] at hleaves
    obtain ⟨rfl, ⟨more, rfl⟩, hsafe, hslash, hspace, hsymbol⟩ := hleaves
    refine ⟨?_, hsafe, hslash, hspace, hdrop.symm ▸ hsymbol, hdrop.symm ▸ hcovers⟩
    rw [hquery, List.getElem?_append_right (Nat.le_refl _), Nat.sub_self]
    rfl
  · have hstands := hcovers.standsIn Text.isBoundary_nil rfl
    rwa [List.nil_append] at hstands

/-! ### Escaped characters -/

namespace Text

/-- The character at a place of a text is taken in by a word that starts before it, and so is part
of what the word stands for. -/
structure IsTakenIn (cs : List Char) (i : Nat) (c : Char) (start : Nat) (word : List Char) :
    Prop where
  isWord : IsWord word
  stands : word <+: cs.drop start
  starts : start < i
  ends : i < start + word.length
  mem : c ∈ unescapeChars word

variable {start : Nat} {word : List Char}

theorem IsTakenIn.append (before : List Char) (h : IsTakenIn cs i c start word) :
    IsTakenIn (before ++ cs) (before.length + i) c (before.length + start) word where
  isWord := h.isWord
  stands := by
    rw [List.drop_length_add_append]
    exact h.stands
  starts := Nat.add_lt_add_left h.starts _
  ends := by
    rw [Nat.add_assoc]
    exact Nat.add_lt_add_left h.ends _
  mem := h.mem

theorem mem_unescapeChars_of_isEscaped (hword : IsWord word) (hi : word[i]? = some c)
    (hescaped : IsEscaped word i) : c ∈ unescapeChars word := by
  induction hword generalizing i with
  | nil => cases hi
  | @safe d cs hd _ ih =>
    have hslash := ne_backslash_of_isSafe hd
    rw [unescapeChars_cons_of_ne hslash]
    cases i with
    | zero => exact hescaped.elim
    | succ i => exact List.mem_cons_of_mem _ (ih hi ((isEscaped_cons hslash).1 hescaped))
  | escaped _ ih =>
    rw [unescapeChars]
    cases i with
    | zero => exact hescaped.elim
    | succ i =>
      cases i with
      | zero =>
        cases hi
        exact List.mem_cons_self
      | succ i => exact List.mem_cons_of_mem _ (ih hi (isEscaped_escape.1 hescaped))

/-- A word takes in the characters that are escaped in it. -/
theorem IsWord.isTakenIn (hword : IsWord word) (hi : i < word.length)
    (hc : (word ++ rest)[i]? = some c) (hescaped : IsEscaped (word ++ rest) i) :
    IsTakenIn (word ++ rest) i c 0 word where
  isWord := hword
  stands := List.prefix_append ..
  starts := by
    refine Nat.pos_of_ne_zero ?_
    rintro rfl
    exact hescaped
  ends := by rwa [Nat.zero_add]
  mem := by
    rw [List.getElem?_append_left hi] at hc
    rw [isEscaped_append_of_le (Nat.le_of_lt hi)] at hescaped
    exact mem_unescapeChars_of_isEscaped hword hc hescaped

/-- What is escaped before the rest of a text is taken in by the word of an operand. -/
theorem Covers.exists_isTakenIn (h : Covers position lexemes cs rest)
    (hi : i + rest.length < cs.length) (hc : cs[i]? = some c) (hescaped : IsEscaped cs i) :
    ∃ start word, IsTakenIn cs i c start word ∧
      ⟨.operand (unescape (String.ofList word)), position + start⟩ ∈ lexemes := by
  induction h generalizing i with
  | nil => omega
  | @cons position token lexemes text gap more rest hread hgap _ ih =>
    have htext := isBalanced_of_isReadFrom hread
    by_cases hlt : i < text.length
    · cases token with
      | operand value =>
        obtain ⟨hlongest, rfl⟩ := hread
        exact ⟨0, text, hlongest.isWord.isTakenIn hlt hc hescaped, List.mem_cons_self⟩
      | operator op =>
        obtain ⟨rfl, -⟩ := hread
        rw [isEscaped_append_of_le (Nat.le_of_lt hlt)] at hescaped
        exact absurd hescaped (not_isEscaped_of_plain (fun _ => ne_backslash_of_mem_symbol) i)
    · have hle : (text ++ gap).length ≤ i := by
        rw [List.length_append]
        rcases hgap with rfl | ⟨rfl, -⟩
        · exact Nat.le_of_not_lt hlt
        · -- the space of a gap is not escaped
          refine Nat.lt_of_le_of_ne (Nat.le_of_not_lt hlt) ?_
          rintro rfl
          exact (isEscaped_append (i := 0) htext).1 hescaped
      obtain ⟨j, rfl⟩ := Nat.exists_eq_add_of_le hle
      rw [← List.append_assoc] at hi hc hescaped ⊢
      rw [List.getElem?_append_right (Nat.le_add_right ..), Nat.add_sub_cancel_left] at hc
      rw [isEscaped_append (htext.append hgap.isBalanced)] at hescaped
      have hj : j + rest.length < more.length := by
        simp only [List.length_append] at hi
        omega
      obtain ⟨start, word, htaken, hmem⟩ := ih hj hc hescaped
      refine ⟨_, word, htaken.append (text ++ gap), List.mem_cons_of_mem _ ?_⟩
      rw [List.length_append, ← Nat.add_assoc, ← Nat.add_assoc]
      exact hmem

end Text

/-- In a text in normal form neither a blank nor a `#` is unexpected: the one would be a space, and
the other would be escaped. -/
theorem Ending.Leaves.unexpectedCharacter (hbefore : Text.IsBalanced before)
    (hnormal : Text.IsNormal (before ++ rest))
    (h : Ending.Leaves before.length rest (.faulty (.unexpectedCharacter c position))) :
    Text.isBlank c = false ∧ c ≠ '#' := by
  obtain ⟨rfl, ⟨more, rfl⟩, -, -, hspace, -⟩ := h
  have hc : (before ++ c :: more)[before.length]? = some c := by
    rw [List.getElem?_append_right (Nat.le_refl _), Nat.sub_self]
    rfl
  refine ⟨Bool.eq_false_iff.2 fun hblank => ?_, ?_⟩
  · exact hspace (hnormal.blank c (List.mem_of_getElem? hc) hblank)
  · rintro rfl
    have hescaped := hnormal.hash _ hc
    rw [Text.isEscaped_append_of_le (Nat.le_refl _)] at hescaped
    exact hbefore hescaped

/-- After what the tokens of a row make up, only a word that a dangling backslash breaks off comes
before the end of the row. -/
theorem Ending.Leaves.exists_isTakenIn {ending : Ending} (hbefore : Text.IsBalanced before)
    (h : ending.Leaves before.length rest) (hi : before.length ≤ i) (hlt : i < ending.position)
    (hc : (before ++ rest)[i]? = some c) (hescaped : Text.IsEscaped (before ++ rest) i) :
    ∃ word, Text.IsTakenIn (before ++ rest) i c before.length word ∧
      ending = .faulty (.danglingEscape (before.length + word.length)) := by
  match ending with
  | .complete position =>
    obtain ⟨rfl, rfl⟩ := h
    exact absurd hlt (Nat.not_lt_of_le hi)
  | .faulty (.unexpectedCharacter d position) =>
    obtain ⟨rfl, -⟩ := h
    exact absurd hlt (Nat.not_lt_of_le hi)
  | .faulty (.danglingEscape position) =>
    obtain ⟨word, rfl, rfl, hword⟩ := h
    obtain ⟨j, rfl⟩ := Nat.exists_eq_add_of_le hi
    rw [List.getElem?_append_right (Nat.le_add_right ..), Nat.add_sub_cancel_left] at hc
    rw [Text.isEscaped_append hbefore] at hescaped
    have hj : j < word.length := Nat.lt_of_add_lt_add_left hlt
    exact ⟨word, (hword.isTakenIn hj hc hescaped).append before, rfl⟩

/-- **Cleaning gives a normal form.** A cleaned text is in normal form and clean already. So a scan
of it stops at no blank and at no `#`; and where a space or a `#` is escaped, it is part of what an
operand stands for, be it the operand that a dangling backslash breaks off. -/
theorem Token.scan_normal_form (text : String) :
    let query := (Text.clean text).toList
    let row := scan (Text.clean text)
    Text.IsNormal query ∧ Text.clean (Text.clean text) = Text.clean text ∧
    (∀ c position, row.ending = .faulty (.unexpectedCharacter c position) →
      Text.isBlank c = false ∧ c ≠ '#') ∧
    ∀ i c, query[i]? = some c → c = ' ' ∨ c = '#' → Text.IsEscaped query i →
      i < row.ending.position →
      ∃ start word, Text.IsTakenIn query i c start word ∧
        (⟨.operand (Text.unescape (String.ofList word)), start⟩ ∈ row.lexemes ∨
          row.ending = .faulty (.danglingEscape (start + word.length))) := by
  intro query row
  obtain ⟨covered, rest, hquery, hcovered, hcovers, hleaves⟩ := Text.covers_scan_clean text
  change query = covered ++ rest at hquery
  change Text.Covers 0 row.lexemes query rest at hcovers
  change row.ending.Leaves covered.length rest at hleaves
  have hnormal : Text.IsNormal query := Text.isNormal_clean text
  refine ⟨hnormal, Text.clean_clean text, fun c position hend => ?_,
    fun i c hi _ hescaped hlt => ?_⟩
  · rw [hend] at hleaves
    exact hleaves.unexpectedCharacter hcovered (hquery ▸ hnormal)
  · by_cases hin : i < covered.length
    · have hbefore : i + rest.length < query.length := by
        rw [hquery, List.length_append]
        exact Nat.add_lt_add_right hin _
      obtain ⟨start, word, htaken, hmem⟩ := hcovers.exists_isTakenIn hbefore hi hescaped
      rw [Nat.zero_add] at hmem
      exact ⟨start, word, htaken, .inl hmem⟩
    · rw [hquery] at hi hescaped ⊢
      obtain ⟨word, htaken, hend⟩ :=
        hleaves.exists_isTakenIn hcovered (Nat.le_of_not_lt hin) hlt hi hescaped
      exact ⟨_, word, htaken, .inr hend⟩

end Axial
