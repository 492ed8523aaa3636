/-!
# Tables

A finite map from keys to values.

* `Table.get?`, `Table.insert`, `Table.erase`.
* `get?_insert`, `get?_erase` : what each operation does to the look-ups.
-/

namespace Axial

universe u v

/-- A finite map, kept as its pairs of a key and a value. -/
structure Table (κ : Type u) (α : Type v) where
  pairs : List (κ × α)

namespace Table

variable {κ : Type u} {α : Type v} [DecidableEq κ]

/-- The table without keys. -/
def empty : Table κ α := ⟨[]⟩

/-- The value of a key. -/
def get? (t : Table κ α) (key : κ) : Option α :=
  t.pairs.lookup key

/-- Whether a key has a value. -/
def contains (t : Table κ α) (key : κ) : Bool :=
  (t.get? key).isSome

/-- Remove a key. -/
def erase (t : Table κ α) (key : κ) : Table κ α :=
  ⟨t.pairs.filter (·.1 ≠ key)⟩

/-- Give a key a value, in place of the one it had. -/
def insert (t : Table κ α) (key : κ) (value : α) : Table κ α :=
  ⟨(key, value) :: (t.erase key).pairs⟩

@[simp] theorem get?_empty (key : κ) : (empty : Table κ α).get? key = none := rfl

theorem get?_erase (t : Table κ α) (key other : κ) :
    (t.erase key).get? other = if other = key then none else t.get? other := by
  obtain ⟨pairs⟩ := t
  simp only [erase, get?]
  induction pairs with
  | nil => simp
  | cons p pairs ih =>
    obtain ⟨k, a⟩ := p
    by_cases hk : k = key
    · have hf : List.filter (fun x : κ × α => decide (x.1 ≠ key)) ((k, a) :: pairs)
          = List.filter (fun x => decide (x.1 ≠ key)) pairs := by simp [hk]
      rw [hf, ih, List.lookup_cons]
      by_cases ho : other = key
      · simp [ho]
      · have : (other == k) = false := by simpa [hk] using ho
        simp [ho, this]
    · rw [List.filter_cons_of_pos (by simpa using hk), List.lookup_cons, List.lookup_cons, ih]
      by_cases ho : other = key
      · have : (key == k) = false := beq_false_of_ne (Ne.symm hk)
        simp [ho, this]
      · simp [ho]

theorem get?_insert (t : Table κ α) (key other : κ) (value : α) :
    (t.insert key value).get? other = if other = key then some value else t.get? other := by
  have h := get?_erase t key other
  simp only [get?] at h
  simp only [insert, get?, List.lookup_cons]
  by_cases ho : other = key
  · simp [ho]
  · have : (other == key) = false := by simpa using ho
    simp [this, h, ho]

end Table

end Axial
