import Mathlib.Data.List.Forall2

/-!
# Outcomes of computations that may fail

Parsing and evaluation end in a value or in an error. The lemmas here take a computation apart, step
by step: by what it gives, or by how it fails.
-/

namespace Axial

universe u v

variable {ε : Type u} {α β : Type v}

/-- A sequence succeeds if both its steps do. -/
theorem bind_eq_ok {x : Except ε α} {f : α → Except ε β} {b : β} :
    x >>= f = .ok b ↔ ∃ a, x = .ok a ∧ f a = .ok b := by
  cases x with
  | error e => simp [bind, Except.bind]
  | ok a => simp [bind, Except.bind]

/-- A sequence fails if its first step does, or its second one after the first. -/
theorem bind_eq_error {x : Except ε α} {f : α → Except ε β} {e : ε} :
    x >>= f = .error e ↔ x = .error e ∨ ∃ a, x = .ok a ∧ f a = .error e := by
  cases x with
  | error e' => simp [bind, Except.bind]
  | ok a => simp [bind, Except.bind]

theorem mapError_eq_ok {ε' : Type u} {x : Except ε α} {f : ε → ε'} {a : α} :
    x.mapError f = .ok a ↔ x = .ok a := by
  cases x <;> simp [Except.mapError]

theorem toOption_eq_some {x : Except ε α} {a : α} : x.toOption = some a ↔ x = .ok a := by
  cases x <;> simp [Except.toOption]

/-- What a sequence gives depends on what its first step gives, not on how that fails. -/
theorem toOption_bind (x : Except ε α) (f : α → Except ε β) :
    (x >>= f).toOption = x.toOption.bind fun a => (f a).toOption := by
  cases x <;> rfl

/-- Sequences whose steps give the same give the same. -/
theorem toOption_bind_congr {x y : Except ε α} {f g : α → Except ε β}
    (hx : x.toOption = y.toOption) (hfg : ∀ a, (f a).toOption = (g a).toOption) :
    (x >>= f).toOption = (y >>= g).toOption := by
  rw [toOption_bind, toOption_bind, hx]
  congr 1
  funext a
  exact hfg a

theorem foldl_bind_none (f : β → α → Option β) (items : List α) :
    items.foldl (fun before a => before.bind (f · a)) none = none := by
  induction items with
  | nil => rfl
  | cons a items ih => exact ih

/-- What steps in a row give, each from what there is before it. -/
theorem toOption_foldlM (f : β → α → Except ε β) (items : List α) (b : β) :
    (items.foldlM f b).toOption =
      items.foldl (fun before a => before.bind fun b => (f b a).toOption) (some b) := by
  induction items generalizing b with
  | nil => rfl
  | cons a items ih =>
    rw [List.foldlM_cons, toOption_bind, List.foldl_cons, Option.bind_some]
    -- once a step fails there is nothing to go on from
    cases (f b a).toOption with
    | none => exact (foldl_bind_none _ items).symm
    | some b => exact ih b

/-- Rows of steps that agree on the items agree. -/
theorem foldlM_congr {f g : β → α → Except ε β} {items : List α}
    (hfg : ∀ b, ∀ a ∈ items, f b a = g b a) (b : β) : items.foldlM f b = items.foldlM g b := by
  induction items generalizing b with
  | nil => rfl
  | cons a items ih =>
    rw [List.foldlM_cons, List.foldlM_cons, hfg b a List.mem_cons_self]
    exact bind_congr fun b => ih (fun b a ha => hfg b a (List.mem_cons_of_mem _ ha)) b

/-- What every step preserves holds after all steps. -/
theorem of_foldlM_eq_ok {P : β → Prop} {f : β → α → Except ε β} {items : List α} {b b' : β}
    (hstep : ∀ b a b', a ∈ items → P b → f b a = .ok b' → P b') (hb : P b)
    (h : items.foldlM f b = .ok b') : P b' := by
  induction items generalizing b with
  | nil =>
    cases h
    exact hb
  | cons a items ih =>
    obtain ⟨next, hnext, h⟩ := bind_eq_ok.1 h
    refine ih (fun b a b' hmem => hstep b a b' (List.mem_cons_of_mem _ hmem)) ?_ h
    exact hstep b a next List.mem_cons_self hb hnext

/-- Where success of a step is told by its item alone, steps in a row succeed if each item is fit
for one. -/
theorem exists_foldlM_eq_ok {P : β → Prop} {Q : α → Prop} {f : β → α → Except ε β} {items : List α}
    {b : β} (hstep : ∀ b a, P b → ((∃ b', f b a = .ok b') ↔ Q a))
    (hkeep : ∀ b a b', P b → f b a = .ok b' → P b') (hb : P b) :
    (∃ b', items.foldlM f b = .ok b') ↔ ∀ a ∈ items, Q a := by
  induction items generalizing b with
  | nil => exact ⟨fun _ => nofun, fun _ => ⟨b, rfl⟩⟩
  | cons a items ih =>
    rw [List.forall_mem_cons, ← hstep b a hb]
    constructor
    · rintro ⟨last, h⟩
      obtain ⟨next, hnext, h⟩ := bind_eq_ok.1 h
      exact ⟨⟨next, hnext⟩, (ih (hkeep b a next hb hnext)).1 ⟨last, h⟩⟩
    · rintro ⟨⟨next, hnext⟩, hrest⟩
      obtain ⟨last, h⟩ := (ih (hkeep b a next hb hnext)).2 hrest
      exact ⟨last, bind_eq_ok.2 ⟨next, hnext, h⟩⟩

@[simp] theorem ok_bind (a : α) (f : α → Except ε β) : (Except.ok a >>= f) = f a := rfl

@[simp] theorem error_bind (e : ε) (f : α → Except ε β) : (Except.error e >>= f) = .error e := rfl

@[simp] theorem pure_eq_ok (a : α) : (pure a : Except ε α) = .ok a := rfl

/-! ### Sequences over lists -/

/-- A sequence succeeds if each of its steps does. -/
theorem mapM_eq_ok {f : α → Except ε β} {items : List α} {results : List β} :
    items.mapM f = .ok results ↔ List.Forall₂ (fun a b => f a = .ok b) items results := by
  constructor
  · intro h
    induction items generalizing results with
    | nil =>
      cases h
      exact .nil
    | cons a items ih =>
      rw [List.mapM_cons] at h
      obtain ⟨b, hb, h⟩ := bind_eq_ok.1 h
      obtain ⟨bs, hbs, h⟩ := bind_eq_ok.1 h
      cases h
      exact .cons hb (ih hbs)
  · intro h
    induction h with
    | nil => rfl
    | cons hb _ ih =>
      rw [List.mapM_cons, hb, ok_bind, ih]
      rfl

theorem exists_mapM_eq_ok_iff {f : α → Except ε β} {items : List α} :
    (∃ results, items.mapM f = .ok results) ↔ ∀ a ∈ items, ∃ b, f a = .ok b := by
  induction items with
  | nil => exact ⟨fun _ => nofun, fun _ => ⟨[], rfl⟩⟩
  | cons a items ih =>
    simp only [List.forall_mem_cons, ← ih, mapM_eq_ok, List.forall₂_cons_left_iff]
    constructor
    · rintro ⟨_, b, bs, hb, hbs, rfl⟩
      exact ⟨⟨b, hb⟩, bs, hbs⟩
    · rintro ⟨⟨b, hb⟩, bs, hbs⟩
      exact ⟨_, b, bs, hb, hbs, rfl⟩

/-- A sequence fails with the error of the first item that has one. -/
theorem mapM_eq_error {f : α → Except ε β} {items : List α} {e : ε} :
    items.mapM f = .error e ↔
      ∃ before a after, items = before ++ a :: after ∧ (∀ a ∈ before, ∃ b, f a = .ok b) ∧
        f a = .error e := by
  constructor
  · intro h
    induction items with
    | nil => cases h
    | cons a items ih =>
      rw [List.mapM_cons] at h
      obtain ha | ⟨b, hb, h⟩ := bind_eq_error.1 h
      · exact ⟨[], a, items, rfl, nofun, ha⟩
      · obtain hrest | ⟨bs, -, h⟩ := bind_eq_error.1 h
        · obtain ⟨before, a', after, rfl, hbefore, ha'⟩ := ih hrest
          exact ⟨a :: before, a', after, rfl, List.forall_mem_cons.2 ⟨⟨b, hb⟩, hbefore⟩, ha'⟩
        · cases h
  · rintro ⟨before, a, after, rfl, hbefore, ha⟩
    obtain ⟨bs, hbs⟩ := exists_mapM_eq_ok_iff.2 hbefore
    rw [List.mapM_append, hbs, ok_bind, List.mapM_cons, ha]
    rfl

end Axial
