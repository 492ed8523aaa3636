import Axial.Proofs.Layout

/-!
# Names with blanks

A name of a store may hold any characters, blanks among them. A blank of ASCII is escaped where the
name is written, and cleaning makes an escaped space of it. So such a name is still written as one
operand, but it is read back with plain spaces for its blanks.

* `Text.respace` : a name with a plain space in place of every blank.
* `Token.cleanFrom_respace`, `Token.clean_line_respace` : what cleaning makes of written names.
* `Token.scan_clean_name` : a written name is read back as one operand, alone and among others.
-/

namespace Axial

namespace Text

/-- The plain space for a blank, and any other character as it is. -/
def toSpace (c : Char) : Char :=
  if isBlank c then ' ' else c

/-- A name with a plain space in place of every blank. -/
def respace (name : String) : String :=
  String.ofList (name.toList.map toSpace)

/-- A name that is not empty and all of whose blanks are characters of ASCII. -/
def HasAsciiBlanks (name : String) : Prop :=
  name ≠ "" ∧ ∀ c ∈ name.toList, isBlank c = true → c.toNat < 128

instance (name : String) : Decidable (HasAsciiBlanks name) :=
  @instDecidableAnd _ _ _ (List.decidableBAll _ name.toList)

theorem toSpace_of_isBlank {c : Char} (h : isBlank c = true) : toSpace c = ' ' :=
  if_pos h

theorem toSpace_of_eq_space {c : Char} (h : isBlank c = true → c = ' ') : toSpace c = c := by
  unfold toSpace
  split
  · next hblank => exact (h hblank).symm
  · rfl

theorem isBlank_toSpace {c : Char} (h : isBlank (toSpace c) = true) : toSpace c = ' ' := by
  unfold toSpace at h ⊢
  split at h <;> simp_all

theorem respace_eq_self {name : String} (h : ∀ c ∈ name.toList, isBlank c = true → c = ' ') :
    respace name = name := by
  have hmap : name.toList.map toSpace = name.toList.map id :=
    List.map_congr_left fun c hc => toSpace_of_eq_space (h c hc)
  rw [respace, hmap, List.map_id, String.ofList_toList]

theorem isWritable_respace {name : String} (h : name ≠ "") : IsWritable (respace name) := by
  refine ⟨fun hempty => ?_, fun c hc hblank => ?_⟩
  · have hnil := congrArg String.toList hempty
    simp only [respace, String.toList_ofList] at hnil
    exact h (String.toList_eq_nil_iff.1 (List.map_eq_nil_iff.1 hnil))
  · rw [respace, String.toList_ofList] at hc
    obtain ⟨d, -, rfl⟩ := List.mem_map.1 hc
    exact isBlank_toSpace hblank

/-- The blanks of ASCII are written with an escape, like the plain space. -/
theorem isSafe_of_isBlank {c : Char} (hblank : isBlank c = true) (hascii : c.toNat < 128) :
    isSafe c = false := by
  have hall : ∀ n < 128, isBlank (Char.ofNat n) = true → isSafe (Char.ofNat n) = false := by
    decide +kernel
  have hc := hall c.toNat hascii
  rw [Char.ofNat_toNat] at hc
  exact hc hblank

variable {started : Bool} {gap : Gap} {rest : List Char}

/-- An escaped character is kept, but for a blank, which becomes a plain space. -/
theorem cleanFrom_escape (c : Char) (hgap : gap ≠ .comment) :
    cleanFrom started gap ('\\' :: c :: rest) =
      gap.space started ++ '\\' :: toSpace c :: cleanFrom true .closed rest := by
  simp [cleanFrom, toSpace, show isBlank '\\' = false by decide]

/-- A character of a written name is cleaned together with those that follow it directly. -/
theorem cleanFrom_respace_cons {c : Char} {name : List Char}
    (hascii : isBlank c = true → c.toNat < 128) (hgap : gap ≠ .comment)
    (hname : cleanFrom true .closed (escapeChars name ++ rest) =
      escapeChars (name.map toSpace) ++ cleanFrom true .closed rest) :
    cleanFrom started gap (escapeChars (c :: name) ++ rest) =
      gap.space started ++
        (escapeChars ((c :: name).map toSpace) ++ cleanFrom true .closed rest) := by
  rw [List.map_cons, escapeChars, escapeChars]
  by_cases hblank : isBlank c = true
  · have hsafe := isSafe_of_isBlank hblank (hascii hblank)
    rw [hsafe, toSpace_of_isBlank hblank, isSafe_space]
    simp only [Bool.false_eq_true, if_false, List.cons_append]
    rw [cleanFrom_escape c hgap, toSpace_of_isBlank hblank, hname]
  · have hkept : toSpace c = c := toSpace_of_eq_space fun hc => absurd hc hblank
    rw [hkept]
    split
    · next hsafe =>
      rw [List.cons_append, cleanFrom_safe hgap hsafe (fun hc => absurd hc hblank), hname,
        List.cons_append]
    · rw [List.cons_append, List.cons_append, cleanFrom_escape c hgap, hkept, hname,
        List.cons_append, List.cons_append]

/-- A written name is cleaned to the written name with plain spaces. -/
theorem cleanFrom_respace {c : Char} {name : List Char}
    (h : ∀ d ∈ c :: name, isBlank d = true → d.toNat < 128) (hgap : gap ≠ .comment) :
    cleanFrom started gap (escapeChars (c :: name) ++ rest) =
      gap.space started ++
        (escapeChars ((c :: name).map toSpace) ++ cleanFrom true .closed rest) := by
  induction name generalizing started gap c with
  | nil => exact cleanFrom_respace_cons (h c List.mem_cons_self) hgap rfl
  | cons d name ih =>
    -- the characters after the first one follow it directly
    refine cleanFrom_respace_cons (h c List.mem_cons_self) hgap ?_
    exact ih (fun e he => h e (List.mem_cons_of_mem _ he)) closed_ne_comment

end Text

namespace Token

/-- A token with plain spaces for the blanks of its name. -/
def respace : Token → Token
  | operand name => operand (Text.respace name)
  | operator op => operator op

/-- Whether the name of an operand is written as one operand. -/
def HasAsciiBlanks : Token → Prop
  | operand name => Text.HasAsciiBlanks name
  | operator _ => True

theorem HasAsciiBlanks.isWritable_respace {token : Token} (h : token.HasAsciiBlanks) :
    token.respace.IsWritable := by
  cases token with
  | operand name => exact Text.isWritable_respace h.1
  | operator op => trivial

theorem cleanFrom_respace {token : Token} {started : Bool} {gap : Text.Gap} {rest : List Char}
    (h : token.HasAsciiBlanks) (hgap : gap ≠ .comment) :
    Text.cleanFrom started gap (token.chars ++ rest) =
      gap.space started ++ (token.respace.chars ++ Text.cleanFrom true .closed rest) := by
  cases token with
  | operand name =>
    obtain ⟨c, cs, hname⟩ : ∃ c cs, name.toList = c :: cs :=
      List.exists_cons_of_ne_nil fun hnil => h.1 (String.toList_eq_nil_iff.1 hnil)
    have hblanks := h.2
    rw [hname] at hblanks
    rw [respace, chars, chars, Text.respace, String.toList_ofList, hname]
    exact Text.cleanFrom_respace hblanks hgap
  | operator op => exact Text.cleanFrom_symbol op hgap

theorem cleanFrom_spaced_respace {tokens : List Token}
    (h : ∀ token ∈ tokens, token.HasAsciiBlanks) :
    Text.cleanFrom true .closed (spaced tokens) = spaced (tokens.map respace) := by
  induction tokens with
  | nil => rfl
  | cons token tokens ih =>
    obtain ⟨htoken, htokens⟩ := List.forall_mem_cons.1 h
    calc Text.cleanFrom true .closed (spaced (token :: tokens))
        = Text.cleanFrom true .blank (token.chars ++ spaced tokens) :=
          Text.cleanFrom_blank Text.closed_ne_comment Text.isBlank_space
      _ = ' ' :: (token.respace.chars ++ spaced (tokens.map respace)) := by
          rw [cleanFrom_respace htoken Text.blank_ne_comment, ih htokens]
          rfl
      _ = spaced ((token :: tokens).map respace) := rfl

/-- A line of tokens is cleaned to the line of these tokens with plain spaces. -/
theorem clean_line_respace {tokens : List Token} (h : ∀ token ∈ tokens, token.HasAsciiBlanks) :
    Text.clean (line tokens) = line (tokens.map respace) := by
  cases tokens with
  | nil => rfl
  | cons token tokens =>
    obtain ⟨htoken, htokens⟩ := List.forall_mem_cons.1 h
    rw [← String.toList_inj, Text.clean, String.toList_ofList, List.map_cons, toList_line,
      toList_line, cleanFrom_respace htoken Text.closed_ne_comment,
      cleanFrom_spaced_respace htokens]
    rfl

/-- A line of tokens is read back as these tokens with plain spaces. -/
theorem scan_clean_line_respace {tokens : List Token}
    (h : ∀ token ∈ tokens, token.HasAsciiBlanks) :
    scan (Text.clean (line tokens)) =
      ⟨lexemesFrom 0 (tokens.map respace), .complete (Text.clean (line tokens)).length⟩ := by
  have hwritable : ∀ token ∈ tokens.map respace, token.IsWritable :=
    List.forall_mem_map.2 fun token htoken => (h token htoken).isWritable_respace
  rw [clean_line_respace h, scan_line hwritable, String.length_toList]

/-- **A written name is one operand.** A name that is not empty, and whose blanks are all of ASCII,
is read back from its escaped form as one operand, and nothing else. In the operand a plain space
stands for every blank, so it is the name itself if this has no other blanks. The same holds
wherever the name stands in a line of tokens. -/
theorem scan_clean_name {name : String} (hname : Text.HasAsciiBlanks name) :
    scan (Text.clean (Text.escape name)) =
        ⟨[⟨.operand (Text.respace name), 0⟩], .complete (Text.clean (Text.escape name)).length⟩ ∧
      ((∀ c ∈ name.toList, Text.isBlank c = true → c = ' ') → Text.respace name = name) ∧
      ∀ before after, (∀ token ∈ before ++ after, token.HasAsciiBlanks) →
        ∃ lexemes, scan (Text.clean (line (before ++ .operand name :: after))) =
            ⟨lexemes, .complete (Text.clean (line (before ++ .operand name :: after))).length⟩ ∧
          lexemes.map Lexeme.token =
            before.map respace ++ .operand (Text.respace name) :: after.map respace := by
  refine ⟨?_, Text.respace_eq_self, fun before after hothers => ⟨_, ?_, map_token_lexemesFrom 0 _⟩⟩
  · have hline : line [.operand name] = Text.escape name := by
      simp [line, chars, Text.escape, List.intercalate]
    have hblanks : ∀ token ∈ [operand name], token.HasAsciiBlanks :=
      List.forall_mem_singleton.2 hname
    have hscan := scan_clean_line_respace hblanks
    rwa [hline] at hscan
  · have hblanks : ∀ token ∈ before ++ .operand name :: after, token.HasAsciiBlanks := by
      obtain ⟨hbefore, hafter⟩ := List.forall_mem_append.1 hothers
      exact List.forall_mem_append.2 ⟨hbefore, List.forall_mem_cons.2 ⟨hname, hafter⟩⟩
    rw [scan_clean_line_respace hblanks, List.map_append, List.map_cons]
    rfl

/-- A name with a tab, alone and as the literal of a comparison. -/
theorem scan_clean_name_tab :
    Text.HasAsciiBlanks "T\tcell" ∧
      scan (Text.clean (Text.escape "T\tcell")) = ⟨[⟨.operand "T cell", 0⟩], .complete 7⟩ ∧
      ∃ lexemes, scan (Text.clean "type = T\\\tcell") = ⟨lexemes, .complete 14⟩ ∧
        lexemes.map Lexeme.token =
          [.operand "type", .operator (.compare .equal), .operand "T cell"] := by
  have hname : Text.HasAsciiBlanks "T\tcell" := by decide
  have hothers : ∀ token ∈ [operand "type", operator (.compare .equal)] ++ [],
      token.HasAsciiBlanks := by
    simp only [List.append_nil, List.forall_mem_cons, HasAsciiBlanks, List.not_mem_nil,
      false_implies, implies_true, and_true]
    decide
  obtain ⟨hscan, -, hline⟩ := scan_clean_name hname
  obtain ⟨lexemes, hlexemes, htokens⟩ := hline _ _ hothers
  have hspace : Text.respace "T\tcell" = "T cell" := by decide
  have hlength : (Text.clean (Text.escape "T\tcell")).length = 7 := by decide +kernel
  have htext : line ([operand "type", operator (.compare .equal)] ++ operand "T\tcell" :: []) =
      "type = T\\\tcell" := by decide +kernel
  have hlength' : (Text.clean "type = T\\\tcell").length = 14 := by decide +kernel
  rw [hspace, hlength] at hscan
  rw [htext, hlength'] at hlexemes
  rw [hspace] at htokens
  have htype : [operand "type", operator (.compare .equal)].map respace =
      [operand "type", operator (.compare .equal)] := by decide
  rw [htype] at htokens
  exact ⟨hname, hscan, lexemes, hlexemes, htokens⟩

/-- A name with a tab is read back as another name: an escaped blank is an escaped space. -/
theorem scan_clean_tab_ne :
    "a\tb" ≠ "" ∧ Text.escape "a\tb" = "a\\\tb" ∧
      scan (Text.clean (Text.escape "a\tb")) = ⟨[⟨.operand "a b", 0⟩], .complete 4⟩ ∧
      ∀ position ending, scan (Text.clean (Text.escape "a\tb")) ≠
        ⟨[⟨.operand "a\tb", position⟩], ending⟩ := by
  have hscan : scan (Text.clean (Text.escape "a\tb")) = ⟨[⟨.operand "a b", 0⟩], .complete 4⟩ := by
    decide +kernel
  refine ⟨by decide, by decide, hscan, fun position ending h => ?_⟩
  rw [hscan] at h
  simp at h

end Token

end Axial
