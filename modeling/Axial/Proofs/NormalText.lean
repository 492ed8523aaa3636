import Axial.Proofs.Layout

/-!
# The normal form of texts

Cleaning brings a text into a normal form: one line without comments, in which a space that is not
escaped stands alone and between two other characters. What is escaped is told by backslashes, and
a backslash may be escaped itself; so it takes the whole text before a character to tell.

* `Text.IsEscaped` : which characters of a text are escaped.
* `Text.IsBalanced` : the texts that leave nothing escaped after them.
* `Text.IsNormal` : the normal form, told by the places of characters.
* `Text.IsKept` : the same character by character, as cleaning goes along a text.
* `Text.isNormal_clean`, `Text.clean_clean` : a cleaned text is in normal form, and clean already.
-/

namespace Axial

namespace Text

/-! ### Escaped characters -/

/-- The character at a place of a text is escaped: the one before it is a backslash that is not
escaped itself. -/
def IsEscaped (cs : List Char) : Nat → Prop
  | 0 => False
  | i + 1 => cs[i]? = some '\\' ∧ ¬ IsEscaped cs i

/-- A character that followed the text would not be escaped. -/
def IsBalanced (cs : List Char) : Prop :=
  ¬ IsEscaped cs cs.length

variable {before cs : List Char} {c : Char} {i : Nat}

/-- Whether a character is escaped is told by the characters before it. -/
theorem isEscaped_append_of_le (hi : i ≤ before.length) :
    IsEscaped (before ++ cs) i ↔ IsEscaped before i := by
  induction i with
  | zero => exact Iff.rfl
  | succ i ih =>
    rw [IsEscaped, IsEscaped, ih (Nat.le_of_succ_le hi), List.getElem?_append_left hi]

/-- Nothing before a balanced text has to be looked at. -/
theorem isEscaped_append (hbefore : IsBalanced before) :
    IsEscaped (before ++ cs) (before.length + i) ↔ IsEscaped cs i := by
  induction i with
  | zero => exact iff_of_false (mt (isEscaped_append_of_le (Nat.le_refl _)).1 hbefore) id
  | succ i ih =>
    rw [← Nat.add_assoc, IsEscaped, IsEscaped, ih,
      List.getElem?_append_right (Nat.le_add_right ..), Nat.add_sub_cancel_left]

theorem IsBalanced.append (hbefore : IsBalanced before) (hcs : IsBalanced cs) :
    IsBalanced (before ++ cs) := by
  rw [IsBalanced, List.length_append, isEscaped_append hbefore]
  exact hcs

theorem isBalanced_nil : IsBalanced [] := id

theorem isBalanced_singleton (hc : c ≠ '\\') : IsBalanced [c] :=
  fun h => hc (Option.some.inj h.1)

theorem isBalanced_escape (c : Char) : IsBalanced ['\\', c] :=
  fun h => h.2 ⟨rfl, id⟩

theorem isEscaped_cons (hc : c ≠ '\\') : IsEscaped (c :: cs) (i + 1) ↔ IsEscaped cs i := by
  rw [Nat.add_comm]
  exact isEscaped_append (isBalanced_singleton hc)

theorem isEscaped_escape : IsEscaped ('\\' :: c :: cs) (i + 2) ↔ IsEscaped cs i := by
  rw [Nat.add_comm]
  exact isEscaped_append (isBalanced_escape c)

/-- Without a backslash nothing is escaped. -/
theorem not_isEscaped_of_plain (hplain : ∀ c ∈ cs, c ≠ '\\') (i : Nat) : ¬ IsEscaped cs i := by
  cases i with
  | zero => exact id
  | succ i => exact fun h => hplain _ (List.mem_of_getElem? h.1) rfl

/-! ### The normal form -/

/-- The normal form of a text: all blanks are plain spaces, no `#` starts a comment, and a space
that is not escaped stands at neither end and not next to another one. -/
structure IsNormal (cs : List Char) : Prop where
  blank : ∀ c ∈ cs, isBlank c = true → c = ' '
  hash : ∀ i, cs[i]? = some '#' → IsEscaped cs i
  ends : ∀ i, i = 0 ∨ i + 1 = cs.length → cs[i]? = some ' ' → IsEscaped cs i
  apart : ∀ i, cs[i]? = some ' ' → cs[i + 1]? = some ' ' → IsEscaped cs i ∨ IsEscaped cs (i + 1)

/-- What cleaning keeps, from some character on. The truth value tells whether a separating space
may stand first. -/
inductive IsKept : Bool → List Char → Prop where
  | nil {spaced : Bool} : IsKept spaced []
  | space {cs : List Char} : IsKept false cs → cs ≠ [] → IsKept true (' ' :: cs)
  | plain {spaced : Bool} {c : Char} {cs : List Char} : c ≠ '#' → isBlank c = false → c ≠ '\\' →
      IsKept true cs → IsKept spaced (c :: cs)
  | escaped {spaced : Bool} {c : Char} {cs : List Char} : (isBlank c = true → c = ' ') →
      IsKept true cs → IsKept spaced ('\\' :: c :: cs)
  /-- A backslash at the very end escapes nothing. -/
  | lone {spaced : Bool} : IsKept spaced ['\\']

variable {spaced started : Bool} {gap : Gap}

theorem IsKept.weaken (h : IsKept spaced cs) : IsKept true cs := by
  cases h with
  | nil => exact .nil
  | space hcs hne => exact .space hcs hne
  | plain hhash hblank hslash hcs => exact .plain hhash hblank hslash hcs
  | escaped hc hcs => exact .escaped hc hcs
  | lone => exact .lone

theorem IsKept.tail (h : IsKept spaced (c :: cs)) (hc : c ≠ '\\') : IsKept true cs := by
  cases h with
  | space h _ => exact h.weaken
  | plain _ _ _ h => exact h
  | escaped _ _ => exact absurd rfl hc
  | lone => exact absurd rfl hc

theorem IsKept.after_escape (h : IsKept spaced ('\\' :: c :: cs)) : IsKept true cs := by
  cases h with
  | plain _ _ hslash _ => exact absurd rfl hslash
  | escaped _ h => exact h

/-- What follows characters of which none is a backslash is kept if all of it is. -/
theorem IsKept.of_plain (hplain : ∀ c ∈ before, c ≠ '\\') (h : IsKept spaced (before ++ cs)) :
    IsKept true cs := by
  induction before generalizing spaced with
  | nil => exact h.weaken
  | cons c before ih =>
    obtain ⟨hc, hplain⟩ := List.forall_mem_cons.1 hplain
    exact ih hplain (h.tail hc)

theorem IsKept.ne_space (h : IsKept false (c :: cs)) : c ≠ ' ' := by
  cases h with
  | plain _ hblank _ _ =>
    rintro rfl
    cases hblank
  | escaped _ _ => decide
  | lone => decide

theorem IsKept.after_gap (h : ∀ spaced, IsKept spaced cs) (hne : cs ≠ []) :
    IsKept started (gap.space started ++ cs) := by
  cases gap with
  | closed => exact h started
  | _ =>
    cases started with
    | false => exact h false
    | true => exact .space (h false) hne

/-- What cleaning leaves is kept. -/
theorem isKept_cleanFrom (started : Bool) (gap : Gap) (cs : List Char) :
    IsKept started (cleanFrom started gap cs) := by
  fun_induction cleanFrom started gap cs with
  | case1 => exact .nil
  | case2 _ _ _ ih => exact ih
  | case3 _ _ _ _ ih => exact ih
  | case4 _ _ _ _ _ _ _ ih => exact ih
  | case5 => exact .after_gap (fun _ => .lone) (List.cons_ne_nil _ _)
  | case6 started gap _ _ _ e rest ih =>
    refine .after_gap (fun _ => .escaped ?_ ih) (List.cons_ne_nil _ _)
    split
    · exact fun _ => rfl
    · next hblank => exact fun h => absurd h hblank
  | case7 started c cs gap _ hhash hblank hslash ih =>
    exact .after_gap (fun _ => .plain hhash (Bool.eq_false_iff.2 hblank) hslash ih)
      (List.cons_ne_nil _ _)

/-- An unescaped character of a text that is kept starts no comment; if it is a space, another
character than a space follows it. -/
theorem IsKept.unescaped (h : IsKept spaced cs) (hi : cs[i]? = some c) (hc : ¬ IsEscaped cs i) :
    c ≠ '#' ∧ (c = ' ' → (i = 0 → spaced = true) ∧ ∃ d, cs[i + 1]? = some d ∧ d ≠ ' ') := by
  induction h generalizing i with
  | nil => cases hi
  | @space cs hcs hne ih =>
    cases i with
    | zero =>
      cases hi
      obtain ⟨d, ds, rfl⟩ := List.exists_cons_of_ne_nil hne
      exact ⟨by decide, fun _ => ⟨fun _ => rfl, d, rfl, hcs.ne_space⟩⟩
    | succ i =>
      obtain ⟨hhash, hspace⟩ := ih hi (mt (isEscaped_cons (by decide)).2 hc)
      exact ⟨hhash, fun h => ⟨fun hzero => absurd hzero i.succ_ne_zero, (hspace h).2⟩⟩
  | plain hhash hblank hslash hcs ih =>
    cases i with
    | zero =>
      cases hi
      refine ⟨hhash, ?_⟩
      rintro rfl
      cases hblank
    | succ i =>
      obtain ⟨hhash', hspace⟩ := ih hi (mt (isEscaped_cons hslash).2 hc)
      exact ⟨hhash', fun h => ⟨fun hzero => absurd hzero i.succ_ne_zero, (hspace h).2⟩⟩
  | escaped he hcs ih =>
    match i with
    | 0 =>
      cases hi
      exact ⟨by decide, fun h => absurd h (by decide)⟩
    | 1 => exact absurd ⟨rfl, id⟩ hc
    | i + 2 =>
      obtain ⟨hhash, hspace⟩ := ih hi (mt isEscaped_escape.2 hc)
      exact ⟨hhash, fun h => ⟨fun hzero => absurd hzero (Nat.succ_ne_zero _), (hspace h).2⟩⟩
  | lone =>
    cases i with
    | zero =>
      cases hi
      exact ⟨by decide, fun h => absurd h (by decide)⟩
    | succ i => cases hi

/-- A text that is kept, with no separating space first, is in normal form. -/
theorem IsKept.isNormal (h : IsKept false cs) (hblank : ∀ c ∈ cs, isBlank c = true → c = ' ') :
    IsNormal cs where
  blank := hblank
  hash i hi := by
    refine Classical.byContradiction fun hc => ?_
    exact (h.unescaped hi hc).1 rfl
  ends i hend hi := by
    refine Classical.byContradiction fun hc => ?_
    obtain ⟨hfirst, d, hd, -⟩ := (h.unescaped hi hc).2 rfl
    rcases hend with rfl | hlast
    · cases hfirst rfl
    · rw [hlast, List.getElem?_eq_none (Nat.le_refl _)] at hd
      cases hd
  apart i hi hnext := by
    refine Classical.byContradiction fun hc => ?_
    obtain ⟨-, d, hd, hspace⟩ := (h.unescaped hi fun h => hc (.inl h)).2 rfl
    exact hspace (Option.some.inj (hd.symm.trans hnext))

/-! ### Cleaning again -/

/-- A gap before a text that starts with a character that is kept leaves its space, and nothing
else changes. -/
theorem IsKept.cleanFrom_gap (h : IsKept false cs) (hne : cs ≠ []) (hgap : gap ≠ .comment) :
    cleanFrom started gap cs = gap.space started ++ cleanFrom true .closed cs := by
  cases h with
  | nil => exact absurd rfl hne
  | plain hhash hblank hslash _ =>
    rw [cleanFrom_plain hgap hhash hblank hslash,
      cleanFrom_plain closed_ne_comment hhash hblank hslash]
    rfl
  | escaped hc _ =>
    rw [cleanFrom_escaped hgap hc, cleanFrom_escaped closed_ne_comment hc]
    rfl
  | lone =>
    cases gap with
    | comment => exact absurd rfl hgap
    | _ => rfl

/-- A text that is kept stays as it is. -/
theorem IsKept.cleanFrom_eq_self (h : IsKept spaced cs) : cleanFrom true .closed cs = cs := by
  induction h with
  | nil => rfl
  | space hcs hne ih =>
    rw [cleanFrom_blank closed_ne_comment isBlank_space, hcs.cleanFrom_gap hne blank_ne_comment, ih]
    rfl
  | plain hhash hblank hslash _ ih =>
    rw [cleanFrom_plain closed_ne_comment hhash hblank hslash, ih]
    rfl
  | escaped hc _ ih =>
    rw [cleanFrom_escaped closed_ne_comment hc, ih]
    rfl
  | lone => rfl

theorem isKept_clean (text : String) : IsKept false (clean text).toList := by
  rw [clean, String.toList_ofList]
  exact isKept_cleanFrom false .closed text.toList

theorem isNormal_clean (text : String) : IsNormal (clean text).toList :=
  (isKept_clean text).isNormal fun _ => eq_space_of_mem_clean

theorem clean_clean (text : String) : clean (clean text) = clean text := by
  have hkept := isKept_clean text
  rw [← String.toList_inj, clean, String.toList_ofList]
  by_cases hne : (clean text).toList = []
  · rw [hne]
    rfl
  · rw [hkept.cleanFrom_gap hne closed_ne_comment, hkept.cleanFrom_eq_self]
    rfl

end Text

end Axial
