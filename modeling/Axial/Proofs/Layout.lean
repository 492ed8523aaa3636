import Axial.Proofs.Spelling

/-!
# Tokens in any layout

Tokens may be laid out over several lines, with comments between them. Cleaning steps over what
stands between two tokens as a whole, whatever it is made of, and leaves one space for it. So the
cleaned text is the row of tokens on one line, which is read back as it was written.

* `Text.IsSpacing`, `Text.IsTrailing` : what may stand between two tokens, and after the last one.
* `Token.LaidOut` : the texts in which some tokens are laid out.
* `Text.cleanFrom_spacing`, `Text.cleanFrom_trailing` : what cleaning makes of a layout.
* `Token.clean_of_laidOut`, `Token.clean_line` : laid out tokens are cleaned to one line, which is
  clean itself.
* `Token.scan_clean_of_laidOut` : laid out tokens are cleaned to one line and read back.
-/

namespace Axial

namespace Text

/-- A mixture of blanks and comments. Every comment ends with its line. -/
inductive IsSpacing : List Char → Prop where
  | nil : IsSpacing []
  | blank {c : Char} {cs : List Char} : isBlank c = true → IsSpacing cs → IsSpacing (c :: cs)
  | comment {body cs : List Char} : '\n' ∉ body → IsSpacing cs →
      IsSpacing ('#' :: (body ++ '\n' :: cs))

/-- A mixture of blanks and comments at the end of a text, where the last comment need not end with
its line. -/
inductive IsTrailing : List Char → Prop where
  | spacing {cs : List Char} : IsSpacing cs → IsTrailing cs
  | comment {cs body : List Char} : IsSpacing cs → '\n' ∉ body → IsTrailing (cs ++ '#' :: body)

/-! ### Cleaning what stands between tokens -/

variable {started : Bool} {gap : Gap} {c : Char} {body cs rest : List Char}

theorem blank_ne_comment : Gap.blank ≠ .comment := nofun

theorem cleanFrom_hash (hgap : gap ≠ .comment) :
    cleanFrom started gap ('#' :: rest) = cleanFrom started .comment rest := by
  cases rest <;> simp [cleanFrom]

theorem cleanFrom_blank (hgap : gap ≠ .comment) (hblank : isBlank c = true) :
    cleanFrom started gap (c :: rest) = cleanFrom started .blank rest := by
  have hhash : c ≠ '#' := by
    rintro rfl
    exact absurd hblank (by decide)
  cases rest <;> simp [cleanFrom, hhash, hblank]

/-- A comment leaves a gap as blanks do. -/
theorem cleanFrom_comment (hbody : '\n' ∉ body) :
    cleanFrom started .comment (body ++ '\n' :: rest) = cleanFrom started .blank rest := by
  induction body with
  | nil => simp [cleanFrom]
  | cons c body ih =>
    have hc : c ≠ '\n' := (List.ne_of_not_mem_cons hbody).symm
    rw [List.cons_append, cleanFrom, if_neg hc, ih (List.not_mem_of_not_mem_cons hbody)]

theorem cleanFrom_unfinished (hbody : '\n' ∉ body) : cleanFrom started .comment body = [] := by
  induction body with
  | nil => rfl
  | cons c body ih =>
    have hc : c ≠ '\n' := (List.ne_of_not_mem_cons hbody).symm
    rw [cleanFrom, if_neg hc, ih (List.not_mem_of_not_mem_cons hbody)]

/-- More of a spacing changes nothing. -/
theorem cleanFrom_blank_spacing (hcs : IsSpacing cs) :
    cleanFrom started .blank (cs ++ rest) = cleanFrom started .blank rest := by
  induction hcs with
  | nil => rfl
  | blank hc _ ih => rw [List.cons_append, cleanFrom_blank blank_ne_comment hc, ih]
  | comment hbody _ ih =>
    rw [List.cons_append, List.append_assoc, List.cons_append, cleanFrom_hash blank_ne_comment,
      cleanFrom_comment hbody, ih]

/-- A spacing leaves one gap, however it is made up. -/
theorem cleanFrom_spacing (hcs : IsSpacing cs) (hne : cs ≠ []) (hgap : gap ≠ .comment) :
    cleanFrom started gap (cs ++ rest) = cleanFrom started .blank rest := by
  cases hcs with
  | nil => exact absurd rfl hne
  | blank hc hcs => rw [List.cons_append, cleanFrom_blank hgap hc, cleanFrom_blank_spacing hcs]
  | comment hbody hcs =>
    rw [List.cons_append, List.append_assoc, List.cons_append, cleanFrom_hash hgap,
      cleanFrom_comment hbody, cleanFrom_blank_spacing hcs]

/-- Nothing is left of what follows the last token. -/
theorem cleanFrom_trailing (hcs : IsTrailing cs) (hgap : gap ≠ .comment) :
    cleanFrom started gap cs = [] := by
  have hspacing : ∀ {cs rest}, IsSpacing cs →
      (∀ gap, gap ≠ Gap.comment → cleanFrom started gap rest = []) →
      cleanFrom started gap (cs ++ rest) = [] := by
    intro cs rest hcs hrest
    by_cases hne : cs = []
    · rw [hne, List.nil_append, hrest gap hgap]
    · rw [cleanFrom_spacing hcs hne hgap, hrest .blank blank_ne_comment]
  cases hcs with
  | spacing hcs =>
    rw [← List.append_nil cs]
    exact hspacing hcs fun _ _ => rfl
  | comment hcs hbody =>
    exact hspacing hcs fun gap hgap => by rw [cleanFrom_hash hgap, cleanFrom_unfinished hbody]

end Text

/-! ### Laid out tokens -/

namespace Token

/-- The rest of a text after a token: more tokens, each after a spacing that is not empty, and what
follows the last one. -/
inductive Continues : List Token → List Char → Prop where
  | nil {cs : List Char} : Text.IsTrailing cs → Continues [] cs
  | cons {token : Token} {tokens : List Token} {spacing cs : List Char} :
      Text.IsSpacing spacing → spacing ≠ [] → Continues tokens cs →
      Continues (token :: tokens) (spacing ++ (token.chars ++ cs))

/-- A text in which some tokens are laid out. A spacing may stand before the first one. -/
inductive LaidOut : List Token → List Char → Prop where
  | nil {cs : List Char} : Text.IsTrailing cs → LaidOut [] cs
  | cons {token : Token} {tokens : List Token} {spacing cs : List Char} :
      Text.IsSpacing spacing → Continues tokens cs →
      LaidOut (token :: tokens) (spacing ++ (token.chars ++ cs))

variable {tokens : List Token} {cs : List Char}

theorem cleanFrom_continues (htokens : ∀ token ∈ tokens, token.IsWritable)
    (h : Continues tokens cs) : Text.cleanFrom true .closed cs = spaced tokens := by
  induction h with
  | nil htrailing => exact Text.cleanFrom_trailing htrailing Text.closed_ne_comment
  | cons hspacing hne _ ih =>
    obtain ⟨htoken, htokens⟩ := List.forall_mem_cons.1 htokens
    rw [Text.cleanFrom_spacing hspacing hne Text.closed_ne_comment,
      cleanFrom_chars htoken Text.blank_ne_comment, ih htokens]
    rfl

/-- Laid out tokens are cleaned to one line. -/
theorem clean_of_laidOut {text : String} (htokens : ∀ token ∈ tokens, token.IsWritable)
    (h : LaidOut tokens text.toList) : Text.clean text = line tokens := by
  rw [← String.toList_inj, Text.clean, String.toList_ofList]
  generalize text.toList = cs at h
  cases h with
  | nil htrailing => exact Text.cleanFrom_trailing htrailing Text.closed_ne_comment
  | @cons token tokens spacing cs hspacing hcontinues =>
    obtain ⟨htoken, htokens⟩ := List.forall_mem_cons.1 htokens
    have hrest := cleanFrom_continues htokens hcontinues
    -- no space is left before the first token
    have hfirst : ∀ gap, gap ≠ Text.Gap.comment →
        Text.cleanFrom false gap (token.chars ++ cs) = (line (token :: tokens)).toList := by
      intro gap hgap
      rw [cleanFrom_chars htoken hgap, hrest, toList_line]
      cases gap <;> rfl
    by_cases hne : spacing = []
    · rw [hne, List.nil_append, hfirst .closed Text.closed_ne_comment]
    · rw [Text.cleanFrom_spacing hspacing hne Text.closed_ne_comment,
        hfirst .blank Text.blank_ne_comment]

/-- A space before each token is a spacing. -/
theorem continues_spaced (tokens : List Token) : Continues tokens (spaced tokens) := by
  induction tokens with
  | nil => exact .nil (.spacing .nil)
  | cons token tokens ih =>
    have hspace : Text.IsSpacing [' '] := .blank rfl .nil
    exact .cons hspace nofun ih

/-- One line is a layout of its tokens. -/
theorem laidOut_line (tokens : List Token) : LaidOut tokens (line tokens).toList := by
  cases tokens with
  | nil => exact .nil (.spacing .nil)
  | cons token tokens =>
    rw [toList_line]
    exact .cons .nil (continues_spaced tokens)

/-- A row of tokens on one line is clean. -/
theorem clean_line (htokens : ∀ token ∈ tokens, token.IsWritable) :
    Text.clean (line tokens) = line tokens :=
  clean_of_laidOut htokens (laidOut_line tokens)

/-! ### Offsets -/

/-- The offset of the token at the given place of a row: every token before it takes its characters
and one space. -/
def offset : List Token → Nat → Nat
  | token :: tokens, place + 1 => token.chars.length + 1 + offset tokens place
  | _, _ => 0

/-- The lexemes of a row of tokens, by their places. -/
theorem getElem?_lexemesFrom (position : Nat) (tokens : List Token) (i : Nat) :
    (lexemesFrom position tokens)[i]? = tokens[i]?.map (⟨·, position + offset tokens i⟩) := by
  induction tokens generalizing position i with
  | nil => rfl
  | cons token tokens ih =>
    cases i with
    | zero => rfl
    | succ i =>
      rw [lexemesFrom, List.getElem?_cons_succ, List.getElem?_cons_succ, ih, offset,
        Nat.add_assoc, Nat.add_assoc, Nat.add_assoc]

/-- A row with a space before each token has the text of a token after that space. -/
theorem chars_prefix_drop_spaced {token : Token} {i : Nat} (hi : tokens[i]? = some token) :
    token.chars <+: (spaced tokens).drop (offset tokens i + 1) := by
  induction tokens generalizing i with
  | nil => cases hi
  | cons first tokens ih =>
    have hspaced : (spaced (first :: tokens)).drop 1 = first.chars ++ spaced tokens := rfl
    cases i with
    | zero =>
      cases hi
      exact hspaced ▸ List.prefix_append ..
    | succ i =>
      have hdrop : (spaced (first :: tokens)).drop (offset (first :: tokens) (i + 1) + 1) =
          (spaced tokens).drop (offset tokens i + 1) := by
        rw [offset, Nat.add_comm _ 1, ← List.drop_drop, hspaced, Nat.add_assoc,
          ← List.drop_drop, List.drop_left, Nat.add_comm]
      rw [hdrop]
      exact ih hi

/-- The text of a token stands at its offset. -/
theorem chars_prefix_drop_line {token : Token} {i : Nat} (hi : tokens[i]? = some token) :
    token.chars <+: (line tokens).toList.drop (offset tokens i) := by
  cases tokens with
  | nil => cases hi
  | cons first tokens =>
    have hspaced : (line (first :: tokens)).toList = (spaced (first :: tokens)).drop 1 :=
      toList_line first tokens
    rw [hspaced, List.drop_drop, Nat.add_comm]
    exact chars_prefix_drop_spaced hi

/-! ### Scanning -/

/-- **Scanning undoes any layout.** Tokens are laid out with blanks and comments between them, and
as many before the first one and after the last one as may be. Then the cleaned text has their
texts with one space between two of them. The scan of it tells exactly these tokens, each with the
offset at which its text stands, and comes to the end of the cleaned text. -/
theorem scan_clean_of_laidOut {text : String} (htokens : ∀ token ∈ tokens, token.IsWritable)
    (h : LaidOut tokens text.toList) :
    Text.clean text = line tokens ∧
      ∃ lexemes, scan (Text.clean text) = ⟨lexemes, .complete (Text.clean text).length⟩ ∧
        lexemes.map Lexeme.token = tokens ∧
        ∀ i lexeme, lexemes[i]? = some lexeme → lexeme.position = offset tokens i ∧
          lexeme.token.chars <+: (Text.clean text).toList.drop lexeme.position := by
  rw [clean_of_laidOut htokens h, ← String.length_toList]
  refine ⟨rfl, lexemesFrom 0 tokens, scan_line htokens, map_token_lexemesFrom 0 tokens, ?_⟩
  intro i lexeme hlexeme
  rw [getElem?_lexemesFrom, Nat.zero_add] at hlexeme
  obtain ⟨token, htoken, rfl⟩ := Option.map_eq_some_iff.1 hlexeme
  exact ⟨rfl, chars_prefix_drop_line htoken⟩

/-- Lines of comments, an operand of a backslash, and two operators that would be one without the
comment between them. -/
theorem scan_clean_of_laidOut_comments : ∃ tokens lexemes,
    tokens = [.operand "a #b", .operator .reduce, .operand "\\", .operator (.compare .less),
      .operator (.compare .equal)] ∧
    (∀ token ∈ tokens, token.IsWritable) ∧
    LaidOut tokens "  # first \\\n\ta\\ \\#b\u3000%># sum\n\n\\\\ <#=\n= # last \\".toList ∧
    Text.clean "  # first \\\n\ta\\ \\#b\u3000%># sum\n\n\\\\ <#=\n= # last \\" =
      "a\\ \\#b %> \\\\ < =" ∧
    scan "a\\ \\#b %> \\\\ < =" = ⟨lexemes, .complete 16⟩ ∧
    lexemes.map Lexeme.token = tokens ∧
    ∀ i lexeme, lexemes[i]? = some lexeme → lexeme.position = offset tokens i := by
  let tokens : List Token := [.operand "a #b", .operator .reduce, .operand "\\",
    .operator (.compare .less), .operator (.compare .equal)]
  let text : String := "  # first \\\n\ta\\ \\#b\u3000%># sum\n\n\\\\ <#=\n= # last \\"
  have hwritable : ∀ token ∈ tokens, token.IsWritable := by
    simp only [tokens, List.forall_mem_cons, IsWritable, List.not_mem_nil, false_implies,
      implies_true, and_true, true_and]
    decide
  have hfirst : Text.IsSpacing (' ' :: ' ' :: '#' :: (" first \\".toList ++ ['\n', '\t'])) :=
    .blank rfl (.blank rfl (.comment (by decide) (.blank rfl .nil)))
  have hsum : Text.IsSpacing ('#' :: (" sum".toList ++ ['\n', '\n'])) :=
    .comment (by decide) (.blank rfl .nil)
  have hbetween : Text.IsSpacing ('#' :: (['='] ++ ['\n'])) := .comment (by decide) .nil
  have hlast : Text.IsTrailing ([' '] ++ '#' :: " last \\".toList) :=
    .comment (.blank rfl .nil) (by decide)
  have hlaid : LaidOut tokens text.toList := by
    have htext : text.toList = "  # first \\\n\t".toList ++ (chars (.operand "a #b") ++
        (['\u3000'] ++ (chars (.operator .reduce) ++ ("# sum\n\n".toList ++
          (chars (.operand "\\") ++ ([' '] ++ (chars (.operator (.compare .less)) ++
            ("#=\n".toList ++ (chars (.operator (.compare .equal)) ++
              " # last \\".toList))))))))) := by
      decide +kernel
    rw [htext]
    exact .cons hfirst (.cons (.blank rfl .nil) nofun (.cons hsum nofun
      (.cons (.blank rfl .nil) nofun (.cons hbetween nofun (.nil hlast)))))
  obtain ⟨hclean, lexemes, hscan, htokens, hoffsets⟩ := scan_clean_of_laidOut hwritable hlaid
  have hline : line tokens = "a\\ \\#b %> \\\\ < =" := by decide +kernel
  rw [hclean, hline, show "a\\ \\#b %> \\\\ < =".length = 16 by decide] at hscan
  rw [hline] at hclean
  exact ⟨tokens, lexemes, rfl, hwritable, hlaid, hclean, hscan, htokens,
    fun i lexeme h => (hoffsets i lexeme h).1⟩

end Token

end Axial
