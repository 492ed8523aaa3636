import Axial.Proofs.Outcome
import Axial.Store.Load

/-!
# What every store keeps to

However a store is filled, its entries are distinct, its vectors are as long as their axes, and
its matrices are as large as theirs.

* `Rows.matrixOf?_eq_some` : the matrix of some rows.
* `Call`, `Store.run` : calls in a row.
* `Store.Reachable` : the stores that are loaded, or filled call by call.
* `Store.update_addAxis`, `Store.update_setVector`, `Store.update_setMatrix` : what comes of each
  step, and the store that it leaves; `Store.eq_of_perform_eq_error`.
* `Store.IsPreserved` : a property that every step preserves; `Store.IsPreserved.of_reachable`.
* `Store.WellFormed` : all data fits its axes; `Store.Reachable.wellFormed`.
* `Store.KeepsOneLayout` : no matrix is kept in both orders of its axes;
  `Store.Reachable.keepsOneLayout`.
-/

namespace Axial

theorem Matrix.of?_eq_some_iff {nrows ncols : Nat} {values : Column} {m : Matrix} :
    Matrix.of? nrows ncols values = some m ↔
      values.length = nrows * ncols % values.words ∧ m = ⟨nrows, ncols, values⟩ := by
  simp [Matrix.of?, eq_comm]

/-- Values that are as many as the cells make a matrix. -/
theorem Matrix.WellShaped.of?_eq_some {nrows ncols : Nat} {values : Column}
    (h : Matrix.WellShaped ⟨nrows, ncols, values⟩) :
    Matrix.of? nrows ncols values = some ⟨nrows, ncols, values⟩ :=
  if_pos (h.trans (Column.mod_words (Nat.le_of_eq (Eq.symm h))).symm)

/-! ### Matrices of rows -/

/-- The values of rows, each with its type. -/
def Rows.cells : Rows → List (List Value)
  | bool rows => rows.map (List.map .bool)
  | int rows => rows.map (List.map .int)
  | float rows => rows.map (List.map .float)
  | string rows => rows.map (List.map .string)

theorem map_some_filterMap {α β : Type} {f : α → Option β} {items : List α}
    (h : ∀ a ∈ items, (f a).isSome) : (items.filterMap f).map some = items.map f := by
  induction items with
  | nil => rfl
  | cons a items ih =>
    obtain ⟨ha, hitems⟩ := List.forall_mem_cons.1 h
    obtain ⟨b, hb⟩ := Option.isSome_iff_exists.1 ha
    rw [List.filterMap_cons_some hb, List.map_cons, List.map_cons, ih hitems, hb]

namespace Rows

variable {α : Type} {rows : List (List α)}

/-- The rows of each type are brought into a matrix alike. -/
theorem exists_matrixOf? (rows : Rows) :
    ∃ (α : Type) (value : α → Value) (wrap : List α → Column) (items : List (List α)),
      (∀ column, (wrap column).cells = column.map value) ∧
        rows.cells = items.map (List.map value) ∧ rows.toMatrix? = matrixOf? wrap items := by
  cases rows with
  | bool rows => exact ⟨Bool, .bool, .bool, rows, fun _ => rfl, rfl, rfl⟩
  | int rows => exact ⟨Int64, .int, .int, rows, fun _ => rfl, rfl, rfl⟩
  | float rows => exact ⟨Binary64, .float, .float, rows, fun _ => rfl, rfl, rfl⟩
  | string rows => exact ⟨String, .string, .string, rows, fun _ => rfl, rfl, rfl⟩

/-- The columns of rows of equal length, one after another. -/
theorem map_some_columnMajor (h : ∀ row ∈ rows, row.length = width rows) :
    (columnMajor rows).map some =
      (List.range (width rows)).flatMap fun column => rows.map (·[column]?) := by
  rw [columnMajor, List.map_flatMap]
  refine List.flatMap_congr fun column hcolumn => map_some_filterMap fun row hrow => ?_
  rw [List.getElem?_eq_getElem (h row hrow ▸ List.mem_range.1 hcolumn), Option.isSome_some]

theorem length_columnMajor (h : ∀ row ∈ rows, row.length = width rows) :
    (columnMajor rows).length = rows.length * width rows := by
  rw [← List.length_map some, map_some_columnMajor h]
  simp [Nat.mul_comm]

/-- There are as many values as cells. -/
theorem length_wrap {value : α → Value} {wrap : List α → Column}
    (hwrap : ∀ column, (wrap column).cells = column.map value)
    (h : ∀ row ∈ rows, row.length = width rows) :
    (wrap (columnMajor rows)).length = rows.length * width rows := by
  rw [← Column.length_cells, hwrap, List.length_map, length_columnMajor h]

theorem matrixOf?_eq_some {value : α → Value} {wrap : List α → Column} {m : Matrix}
    (hwrap : ∀ column, (wrap column).cells = column.map value) :
    matrixOf? wrap rows = some m ↔
      (∀ row ∈ rows, row.length = width rows) ∧
        m = ⟨rows.length, width rows, wrap (columnMajor rows)⟩ := by
  unfold matrixOf?
  by_cases h : ∀ row ∈ rows, row.length = width rows
  · have hshape : Matrix.WellShaped ⟨rows.length, width rows, wrap (columnMajor rows)⟩ :=
      length_wrap hwrap h
    rw [if_pos (by simpa using h), hshape.of?_eq_some, Option.some.injEq, eq_comm,
      and_iff_right h]
  · rw [if_neg (by simpa using h)]
    simp [h]

theorem wellShaped_of_toMatrix? {rows : Rows} {m : Matrix} (h : rows.toMatrix? = some m) :
    m.WellShaped := by
  obtain ⟨α, value, wrap, items, hwrap, -, hrows⟩ := rows.exists_matrixOf?
  obtain ⟨hwidth, rfl⟩ := (matrixOf?_eq_some hwrap).1 (hrows ▸ h)
  exact length_wrap hwrap hwidth

end Rows

/-! ### Calls -/

/-- A call that fills a store. -/
inductive Call where
  | addAxis (axis : String) (entries : List String)
  | setScalar (name : String) (value : Value)
  | setVector (axis name : String) (values : Column)
  | setMatrix (rows columns name : String) (m : Matrix)

namespace Call

/-- The steps of a call. -/
def steps : Call → Update Unit
  | addAxis axis entries => Update.addAxis axis entries
  | setScalar name value => Update.setScalar name value
  | setVector axis name values => Update.setVector axis name values
  | setMatrix rows columns name m => Update.setMatrix rows columns name m

/-- The matrix of a call has as many values as cells. -/
def IsShaped : Call → Prop
  | setMatrix _ _ _ m => m.WellShaped
  | _ => True

instance decidableIsShaped : (call : Call) → Decidable call.IsShaped
  | setMatrix _ _ _ m => inferInstanceAs (Decidable m.WellShaped)
  | addAxis .. | setScalar .. | setVector .. => inferInstanceAs (Decidable True)

end Call

namespace Store

/-- Make a call: whether it succeeds, and the store that it leaves. -/
def perform (store : Store) (call : Call) : Except StoreError Unit × Store :=
  store.update call.steps

/-- The store that is left after calls in a row, some of which may fail. -/
def run (store : Store) : List Call → Store
  | [] => store
  | call :: calls => (store.perform call).2.run calls

/-- The stores that can be loaded, or filled call by call. The matrices they are filled with have as
many values as cells. -/
inductive Reachable : Store → Prop where
  | empty (name : String) : Reachable (.empty name)
  | load {text : String} {store : Store} : Store.load text = .ok store → Reachable store
  | perform {store next : Store} {call : Call} : Reachable store → call.IsShaped →
      store.perform call = (.ok (), next) → Reachable next

/-- All data of a store fits its axes. -/
structure WellFormed (store : Store) : Prop where
  nodup : ∀ axis entries, store.entries? axis = some entries → entries.Nodup
  vector : ∀ axis name values, store.vector? axis name = some values →
    store.axisLength? axis = some values.length
  matrix : ∀ rows columns name m, store.matrices.get? (rows, columns, name) = some m →
    m.WellShaped ∧ store.axisLength? rows = some m.nrows ∧ store.axisLength? columns = some m.ncols

/-! ### The steps -/

section Update

variable {α : Type} {store : Store} {axis name rows columns : String} {entries : List String}

theorem update_fail (cause : StoreCause) :
    store.update (.fail cause : Update α) = (.error ⟨store.name, cause⟩, store) :=
  rfl

theorem update_get (more : Store → Update α) :
    store.update (get >>= more) = store.update (more store) :=
  rfl

/-- Steps that begin with the length of an axis. -/
theorem update_requireLength (more : Nat → Update α) :
    store.update (Update.requireLength axis >>= more) =
      match store.axisLength? axis with
      | none => (.error ⟨store.name, .missingAxis axis⟩, store)
      | some length => store.update (more length) := by
  rw [Update.requireLength, bind_assoc, update_get]
  cases store.axisLength? axis <;> rfl

theorem update_addAxis :
    store.update (.addAxis axis entries) =
      if store.hasAxis axis then (.error ⟨store.name, .existingAxis axis⟩, store)
      else
        match firstRepeated? [] entries with
        | some entry => (.error ⟨store.name, .duplicateEntry entry axis⟩, store)
        | none => (.ok (), { store with axes := store.axes.insert axis entries }) := by
  rw [Update.addAxis, update_get]
  cases store.hasAxis axis with
  | true => rfl
  | false => cases firstRepeated? [] entries <;> rfl

theorem update_setScalar {value : Value} :
    store.update (.setScalar name value) =
      (.ok (), { store with scalars := store.scalars.insert name value }) :=
  rfl

theorem update_setVector {values : Column} :
    store.update (.setVector axis name values) =
      match store.axisLength? axis with
      | none => (.error ⟨store.name, .missingAxis axis⟩, store)
      | some length =>
        if values.length ≠ length then
          (.error ⟨store.name, .vectorLength name values.length length axis⟩, store)
        else (.ok (), { store with vectors := store.vectors.insert (axis, name) values }) := by
  rw [Update.setVector, update_requireLength]
  cases store.axisLength? axis with
  | none => rfl
  | some length =>
    dsimp only
    split <;> rfl

theorem update_setMatrix {m : Matrix} :
    store.update (.setMatrix rows columns name m) =
      match store.axisLength? rows, store.axisLength? columns with
      | none, _ => (.error ⟨store.name, .missingAxis rows⟩, store)
      | some _, none => (.error ⟨store.name, .missingAxis columns⟩, store)
      | some nrows, some ncols =>
        if (m.nrows, m.ncols) ≠ (nrows, ncols) then
          (.error ⟨store.name,
            .matrixShape name (m.nrows, m.ncols) (nrows, ncols) rows columns⟩, store)
        else
          (.ok (), { store with matrices :=
            (store.matrices.erase (columns, rows, name)).insert (rows, columns, name) m }) := by
  rw [Update.setMatrix, update_requireLength]
  cases store.axisLength? rows with
  | none => rfl
  | some nrows =>
    dsimp only
    rw [update_requireLength]
    cases store.axisLength? columns with
    | none => rfl
    | some ncols =>
      dsimp only
      split <;> rfl

end Update

/-! ### Steps that succeed -/

variable {store next left : Store} {call : Call} {calls : List Call}
  {axis name rows columns : String} {entries : List String}

theorem after_eq_ok {steps : Update Unit} :
    store.after steps = .ok next ↔ store.update steps = (.ok (), next) := by
  unfold after
  split
  · next heq => simp [heq]
  · next heq => simp [heq]

theorem axisLength?_of_entries? (h : store.entries? axis = some entries) :
    store.axisLength? axis = some entries.length :=
  congrArg (Option.map List.length) h

/-- The length of an axis is the number of its entries. -/
theorem length_eq_of_entries? {length : Nat} (h : store.entries? axis = some entries)
    (hlength : store.axisLength? axis = some length) : entries.length = length :=
  Option.some.inj ((axisLength?_of_entries? h).symm.trans hlength)

/-- No name is repeated if and only if all are distinct, and none of them was there before. -/
theorem firstRepeated?_eq_none {before : List String} :
    firstRepeated? before entries = none ↔
      entries.Nodup ∧ ∀ entry ∈ entries, entry ∉ before := by
  induction entries generalizing before with
  | nil => simp [firstRepeated?]
  | cons entry entries ih =>
    rw [firstRepeated?]
    split
    · next hentry => simp [hentry]
    · next hentry =>
      simp only [ih, List.nodup_cons, List.mem_cons, not_or]
      grind

theorem addAxis_eq_ok :
    store.after (.addAxis axis entries) = .ok next ↔
      store.entries? axis = none ∧ firstRepeated? [] entries = none ∧
        next = { store with axes := store.axes.insert axis entries } := by
  rw [after_eq_ok, update_addAxis]
  show (if (store.entries? axis).isSome then _ else _) = _ ↔ _
  cases store.entries? axis with
  | some old => simp
  | none => cases firstRepeated? [] entries <;> simp [eq_comm]

theorem setScalar_eq_ok {value : Value} :
    store.after (.setScalar name value) = .ok next ↔
      next = { store with scalars := store.scalars.insert name value } := by
  rw [after_eq_ok, update_setScalar, Prod.mk.injEq, eq_self_iff_true, true_and, eq_comm]

theorem setVector_eq_ok {values : Column} :
    store.after (.setVector axis name values) = .ok next ↔
      store.axisLength? axis = some values.length ∧
        next = { store with vectors := store.vectors.insert (axis, name) values } := by
  rw [after_eq_ok, update_setVector]
  cases store.axisLength? axis with
  | none => simp
  | some length =>
    by_cases hlength : values.length = length
    · simp [hlength, eq_comm]
    · simp [hlength, Ne.symm hlength]

theorem setMatrix_eq_ok {m : Matrix} :
    store.after (.setMatrix rows columns name m) = .ok next ↔
      store.axisLength? rows = some m.nrows ∧ store.axisLength? columns = some m.ncols ∧
        next = { store with
          matrices := (store.matrices.erase (columns, rows, name)).insert
            (rows, columns, name) m } := by
  rw [after_eq_ok, update_setMatrix]
  cases store.axisLength? rows with
  | none => simp
  | some nrows =>
    cases store.axisLength? columns with
    | none => simp
    | some ncols =>
      by_cases hshape : m.nrows = nrows ∧ m.ncols = ncols
      · simp [hshape, eq_comm]
      · simp only [ne_eq, Prod.mk.injEq, hshape, not_false_eq_true, if_true, reduceCtorEq,
          false_and, Option.some.injEq, false_iff]
        rintro ⟨hrows, hcolumns, -⟩
        exact hshape ⟨hrows.symm, hcolumns.symm⟩

theorem addItem_eq_ok {item : MatrixItem} :
    store.after (.addItem item) = .ok next ↔
      ∃ m, item.values.toMatrix? = some m ∧
        store.after (.setMatrix item.rows item.columns item.name m) = .ok next := by
  unfold Update.addItem
  cases item.values.toMatrix? with
  | none => simp [after_eq_ok, update_fail]
  | some m => simp

/-- A call that fails leaves the store as it is: all checks stand before the first change. -/
theorem eq_of_perform_eq_error {error : StoreError}
    (h : store.perform call = (.error error, left)) :
    left = store := by
  cases call with
  | addAxis axis entries =>
    replace h := update_addAxis.symm.trans h
    split at h
    · exact (Prod.mk.inj h).2.symm
    · split at h
      · exact (Prod.mk.inj h).2.symm
      · cases h
  | setScalar name value => cases h
  | setVector axis name values =>
    replace h := update_setVector.symm.trans h
    split at h
    · exact (Prod.mk.inj h).2.symm
    · split at h
      · exact (Prod.mk.inj h).2.symm
      · cases h
  | setMatrix rows columns name m =>
    replace h := update_setMatrix.symm.trans h
    split at h
    · exact (Prod.mk.inj h).2.symm
    · exact (Prod.mk.inj h).2.symm
    · split at h
      · exact (Prod.mk.inj h).2.symm
      · cases h

/-- What is loaded or filled can be filled further. -/
theorem Reachable.run (h : store.Reachable) (hcalls : ∀ call ∈ calls, call.IsShaped) :
    (store.run calls).Reachable := by
  induction calls generalizing store with
  | nil => exact h
  | cons call calls ih =>
    obtain ⟨hshaped, hcalls⟩ := List.forall_mem_cons.1 hcalls
    rw [Store.run]
    refine ih ?_ hcalls
    cases hstep : store.perform call with
    | mk outcome left =>
      cases outcome with
      | error error => exact eq_of_perform_eq_error hstep ▸ h
      | ok _ => exact .perform h hshaped hstep

theorem load_of_description {text : String} {d : Description}
    (hd : (Json.parse? text).bind Json.description? = some d) :
    load text = (ofDescription d).mapError .store := by
  rw [load, hd]

theorem load_eq_ok {text : String} :
    load text = .ok store ↔
      ∃ d, (Json.parse? text).bind Json.description? = some d ∧ ofDescription d = .ok store := by
  unfold load
  cases (Json.parse? text).bind Json.description? with
  | none => simp
  | some d => simp [mapError_eq_ok]

/-! ### What every step preserves -/

/-- A property holds of empty stores, and every step that succeeds preserves it. -/
structure IsPreserved (P : Store → Prop) : Prop where
  empty : ∀ name, P (empty name)
  addAxis : ∀ {store next axis entries}, P store →
    store.after (.addAxis axis entries) = .ok next → P next
  setScalar : ∀ {store next name value}, P store →
    store.after (.setScalar name value) = .ok next → P next
  setVector : ∀ {store next axis name values}, P store →
    store.after (.setVector axis name values) = .ok next → P next
  setMatrix : ∀ {store next rows columns name} {m : Matrix}, P store → m.WellShaped →
    store.after (.setMatrix rows columns name m) = .ok next → P next

section IsPreserved

variable {P : Store → Prop} (hP : IsPreserved P)

include hP

theorem IsPreserved.addItem {item : MatrixItem} (h : P store)
    (hstep : store.after (.addItem item) = .ok next) : P next := by
  obtain ⟨m, hm, hset⟩ := addItem_eq_ok.1 hstep
  exact hP.setMatrix h (Rows.wellShaped_of_toMatrix? hm) hset

theorem IsPreserved.perform (h : P store) (hshaped : call.IsShaped)
    (hstep : store.perform call = (.ok (), next)) : P next := by
  have hafter := after_eq_ok.2 hstep
  cases call with
  | addAxis axis entries => exact hP.addAxis h hafter
  | setScalar name value => exact hP.setScalar h hafter
  | setVector axis name values => exact hP.setVector h hafter
  | setMatrix rows columns name m => exact hP.setMatrix h hshaped hafter

/-- Loading a store fills it step by step. -/
theorem IsPreserved.of_description {d : Description} (h : ofDescription d = .ok store) :
    P store := by
  obtain ⟨withAxes, haxes, h⟩ := bind_eq_ok.1 h
  obtain ⟨withVectors, hvectors, h⟩ := bind_eq_ok.1 h
  have hwithAxes : P withAxes :=
    of_foldlM_eq_ok (fun _ _ _ _ hb hstep => hP.addAxis hb hstep) (hP.empty d.name) haxes
  have hwithVectors : P withVectors := by
    refine of_foldlM_eq_ok (fun _ _ _ _ hb hstep => hP.setVector hb hstep) ?_ hvectors
    exact List.foldlRecOn d.scalars _ hwithAxes fun _ hb _ _ => hP.setScalar hb rfl
  exact of_foldlM_eq_ok (fun _ _ _ _ hb hstep => hP.addItem hb hstep) hwithVectors h

/-- What every step preserves holds of every reachable store. -/
theorem IsPreserved.of_reachable (h : store.Reachable) : P store := by
  induction h with
  | empty name => exact hP.empty name
  | load hload =>
    obtain ⟨d, -, hd⟩ := load_eq_ok.1 hload
    exact hP.of_description hd
  | perform _ hshaped hstep ih => exact hP.perform ih hshaped hstep

end IsPreserved

/-! ### Data fits its axes -/

theorem wellFormed_empty (name : String) : (empty name).WellFormed :=
  ⟨nofun, nofun, nofun⟩

theorem WellFormed.setScalar {value : Value} (h : store.WellFormed)
    (hstep : store.after (.setScalar name value) = .ok next) : next.WellFormed := by
  cases setScalar_eq_ok.1 hstep
  exact ⟨h.nodup, h.vector, h.matrix⟩

/-- A new axis changes the length of no other axis. -/
theorem WellFormed.addAxis (h : store.WellFormed)
    (hstep : store.after (.addAxis axis entries) = .ok next) : next.WellFormed := by
  obtain ⟨hnone, hrepeated, rfl⟩ := addAxis_eq_ok.1 hstep
  have hentries : ∀ other, (store.axes.insert axis entries).get? other =
      if other = axis then some entries else store.entries? other := fun other =>
    Table.get?_insert ..
  -- the axis is new, so those that data lies along keep their lengths
  have hlength : ∀ other length, store.axisLength? other = some length →
      ((store.axes.insert axis entries).get? other).map List.length = some length := by
    intro other length hother
    rw [hentries]
    split
    · next heq => simp [heq, axisLength?, hnone] at hother
    · exact hother
  refine ⟨fun other found hfound => ?_, fun other name values hvector => ?_,
    fun rows columns name m hmatrix => ?_⟩
  · replace hfound : (store.axes.insert axis entries).get? other = some found := hfound
    rw [hentries] at hfound
    split at hfound
    · cases hfound
      exact (firstRepeated?_eq_none.1 hrepeated).1
    · exact h.nodup other found hfound
  · exact hlength other values.length (h.vector other name values hvector)
  · obtain ⟨hshape, hrows, hcolumns⟩ := h.matrix rows columns name m hmatrix
    exact ⟨hshape, hlength rows _ hrows, hlength columns _ hcolumns⟩

theorem WellFormed.setVector {values : Column} (h : store.WellFormed)
    (hstep : store.after (.setVector axis name values) = .ok next) : next.WellFormed := by
  obtain ⟨hlength, rfl⟩ := setVector_eq_ok.1 hstep
  refine ⟨h.nodup, fun other name' found hfound => ?_, h.matrix⟩
  replace hfound : (store.vectors.insert (axis, name) values).get? (other, name') = some found :=
    hfound
  rw [Table.get?_insert] at hfound
  split at hfound
  · next heq =>
    cases heq
    cases hfound
    exact hlength
  · exact h.vector other name' found hfound

theorem WellFormed.setMatrix {m : Matrix} (h : store.WellFormed) (hm : m.WellShaped)
    (hstep : store.after (.setMatrix rows columns name m) = .ok next) : next.WellFormed := by
  obtain ⟨hrows, hcolumns, rfl⟩ := setMatrix_eq_ok.1 hstep
  refine ⟨h.nodup, h.vector, fun rows' columns' name' found hfound => ?_⟩
  rw [Table.get?_insert] at hfound
  split at hfound
  · next heq =>
    cases heq
    cases hfound
    exact ⟨hm, hrows, hcolumns⟩
  -- the matrix of the same name in the other layout is dropped
  · rw [Table.get?_erase] at hfound
    split at hfound
    · cases hfound
    · exact h.matrix rows' columns' name' found hfound

theorem isPreserved_wellFormed : IsPreserved WellFormed :=
  ⟨wellFormed_empty, .addAxis, .setScalar, .setVector, .setMatrix⟩

/-- **All data of a reachable store fits its axes.** -/
theorem Reachable.wellFormed (h : store.Reachable) : store.WellFormed :=
  isPreserved_wellFormed.of_reachable h

/-! ### Matrices are kept in one layout -/

/-- No matrix is kept in both orders of its axes. -/
def KeepsOneLayout (store : Store) : Prop :=
  ∀ rows columns name m, rows ≠ columns → store.matrices.get? (rows, columns, name) = some m →
    store.matrices.get? (columns, rows, name) = none

/-- A new matrix takes the place of the one in the other layout. -/
theorem KeepsOneLayout.setMatrix {m : Matrix} (h : store.KeepsOneLayout)
    (hstep : store.after (.setMatrix rows columns name m) = .ok next) : next.KeepsOneLayout := by
  obtain ⟨-, -, rfl⟩ := setMatrix_eq_ok.1 hstep
  intro rows' columns' name' found hne hfound
  simp only [Table.get?_insert, Table.get?_erase, Prod.mk.injEq] at hfound ⊢
  by_cases hset : rows' = rows ∧ columns' = columns ∧ name' = name
  · obtain ⟨rfl, rfl, rfl⟩ := hset
    simp [Ne.symm hne]
  · by_cases hother : columns' = rows ∧ rows' = columns ∧ name' = name
    · obtain ⟨rfl, rfl, rfl⟩ := hother
      simp [hne] at hfound
    · have hother' : ¬ (rows' = columns ∧ columns' = rows ∧ name' = name) :=
        fun ⟨hr, hc, hn⟩ => hother ⟨hc, hr, hn⟩
      have hset' : ¬ (columns' = columns ∧ rows' = rows ∧ name' = name) :=
        fun ⟨hc, hr, hn⟩ => hset ⟨hr, hc, hn⟩
      rw [if_neg hset, if_neg hother'] at hfound
      rw [if_neg hother, if_neg hset']
      exact h rows' columns' name' found hne hfound

theorem isPreserved_keepsOneLayout : IsPreserved KeepsOneLayout where
  empty _ := nofun
  addAxis h hstep := by
    obtain ⟨-, -, rfl⟩ := addAxis_eq_ok.1 hstep
    exact h
  setScalar h hstep := by
    cases setScalar_eq_ok.1 hstep
    exact h
  setVector h hstep := by
    obtain ⟨-, rfl⟩ := setVector_eq_ok.1 hstep
    exact h
  setMatrix h _ hstep := h.setMatrix hstep

/-- **A reachable store keeps no matrix in both orders of its axes.** -/
theorem Reachable.keepsOneLayout (h : store.Reachable) : store.KeepsOneLayout :=
  isPreserved_keepsOneLayout.of_reachable h

end Store

end Axial
