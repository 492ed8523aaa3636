import Axial.Data.Value

/-!
# Columns

A column is a row of values of one type.

* `Column.cells` : the values of a column, each with its type.
* `Column.words` : the machine words that indices are computed in.
* `Column.get?` : the value at an index; `cells_getElem?` ties it to the view.
* `Column.gather`, `Column.select?` : the values at a list of indices. `gather` passes over the
  indices beyond the end, `select?` refuses them; `pick`, `pick?` likewise for plain lists.
* `Column.slice?` : the items between two indices.
* `keptIndices` : the indices at which a mask is true.
-/

namespace Axial

/-- Values of one type. -/
inductive Column where
  | bool (values : List Bool)
  | int (values : List Int64)
  | float (values : List Binary64)
  | string (values : List String)
deriving DecidableEq

namespace Column

/-- The type of the values. -/
def type : Column → ElementType
  | bool _ => .bool
  | int _ => .int
  | float _ => .float
  | string _ => .string

/-- The values, each with its type. -/
def cells : Column → List Value
  | bool values => values.map .bool
  | int values => values.map .int
  | float values => values.map .float
  | string values => values.map .string

/-- The number of values. -/
def length : Column → Nat
  | bool values => values.length
  | int values => values.length
  | float values => values.length
  | string values => values.length

/-- The number of machine words that indices into a column are computed in; what is computed comes
round after the last one. A word has 64 bits, and only to a column that no memory holds would words
of this size not reach. -/
def words (column : Column) : Nat :=
  max UInt64.size (column.length + 1)

/-- The value at an index. -/
def get? (column : Column) (index : Nat) : Option Value :=
  match column with
  | bool values => values[index]?.map .bool
  | int values => values[index]?.map .int
  | float values => values[index]?.map .float
  | string values => values[index]?.map .string

/-- The items of a list at the given indices, in their order; indices beyond the end are passed
over. -/
def pick {α : Type} (items : List α) (indices : List Nat) : List α :=
  let items := items.toArray
  indices.filterMap (items[·]?)

/-- The items of a list at the given indices, in their order, if all of them are in range. -/
def pick? {α : Type} (items : List α) (indices : List Nat) : Option (List α) :=
  let length := items.length
  if indices.all (· < length) then some (pick items indices) else none

/-- The items of a list from one index up to another one, if the list is that long. -/
def slice? {α : Type} (items : List α) (start stop : Nat) : Option (List α) :=
  if start ≤ stop ∧ stop ≤ items.length then some ((items.drop start).take (stop - start)) else none

/-- The values at the given indices, in their order; indices beyond the end are passed over. -/
def gather (column : Column) (indices : List Nat) : Column :=
  match column with
  | bool values => .bool (pick values indices)
  | int values => .int (pick values indices)
  | float values => .float (pick values indices)
  | string values => .string (pick values indices)

/-- The values at the given indices, in their order, if all of them are in range. -/
def select? (column : Column) (indices : List Nat) : Option Column :=
  let length := column.length
  if indices.all (· < length) then some (column.gather indices) else none

/-- The column of one value. -/
def ofValue : Value → Column
  | .bool b => bool [b]
  | .int n => int [n]
  | .float x => float [x]
  | .string s => string [s]

/-- The numbers that the values stand for, if they are numeric. -/
def toFloats? : Column → Option (List Binary64)
  | int values => some (values.map fun n => Binary64.ofInt n.toInt)
  | float values => some values
  | bool _ | string _ => none

@[simp] theorem length_cells (column : Column) : column.cells.length = column.length := by
  cases column <;> simp [cells, length]

/-- What reaches no further than the end of a column fits into a word. -/
theorem mod_words {column : Column} {n : Nat} (h : n ≤ column.length) : n % column.words = n :=
  Nat.mod_eq_of_lt (Nat.lt_of_lt_of_le (Nat.lt_succ_of_le h) (Nat.le_max_right ..))

theorem cells_getElem? (column : Column) (index : Nat) :
    column.cells[index]? = column.get? index := by
  cases column <;> simp [cells, get?]

theorem pick_eq_filterMap {α : Type} (items : List α) (indices : List Nat) :
    pick items indices = indices.filterMap (items[·]?) := by
  simp [pick]

theorem pick?_eq_some_iff {α : Type} {items picked : List α} {indices : List Nat} :
    pick? items indices = some picked ↔
      (∀ i ∈ indices, i < items.length) ∧ picked = pick items indices := by
  simp [pick?, eq_comm (a := picked)]

theorem select?_eq_some_iff {column picked : Column} {indices : List Nat} :
    column.select? indices = some picked ↔
      (∀ i ∈ indices, i < column.length) ∧ picked = column.gather indices := by
  simp [select?, eq_comm (a := picked)]

theorem cells_gather (column : Column) (indices : List Nat) :
    (column.gather indices).cells = indices.filterMap column.get? := by
  cases column <;> simp only [gather, pick_eq_filterMap, cells, List.map_filterMap] <;> rfl

end Column

/-- The indices at which a mask is true. -/
def keptIndices (mask : List Bool) : List Nat :=
  (mask.zipIdx.filter (·.1)).map (·.2)

end Axial
