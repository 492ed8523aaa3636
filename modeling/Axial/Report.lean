import Axial.Json.Number
import Axial.Data.Answer

/-!
# Reports

The answer of a query as a JSON document: an object with its members in the order of their names,
a matrix row by row, and `null` for a query without an answer.

* `Answer.toJson`
* `report` : the text of an answer.
-/

namespace Axial

/-- A string of a document. -/
def Json.text (s : String) : Json := .string (some s)

/-- An array of strings. -/
def Json.texts (names : List String) : Json := .array (names.map Json.text)

/-- A member of an object. -/
def Json.member (name : String) (value : Json) : Option String × Json := (some name, value)

namespace Value

/-- A value as a document. -/
def toJson : Value → Json
  | bool b => .bool b
  | int n => .ofInt n
  | float x => .ofFloat x
  | string s => .text s

end Value

/-- A column as an array. -/
def Column.toJson (column : Column) : Json :=
  .array (column.cells.map Value.toJson)

/-- The cells of a row. -/
def Matrix.row (m : Matrix) (row : Nat) : List Value :=
  (List.range m.ncols).filterMap (m.get? row)

/-- A matrix as an array of its rows. -/
def Matrix.toJson (m : Matrix) : Json :=
  .array ((List.range m.nrows).map fun r => .array ((m.row r).map Value.toJson))

/-- An answer as a document. -/
def Answer.toJson : Answer → Json
  | scalar value =>
    .object [Json.member "type" (.text "scalar"), Json.member "value" value.toJson]
  | vector v =>
    .object [
      Json.member "axis" (.text v.axis),
      Json.member "entries" (.texts v.entries),
      Json.member "type" (.text "vector"),
      Json.member "values" v.values.toJson]
  | matrix m =>
    .object [
      Json.member "column_entries" (.texts m.columnEntries),
      Json.member "columns_axis" (.text m.columnsAxis),
      Json.member "row_entries" (.texts m.rowEntries),
      Json.member "rows_axis" (.text m.rowsAxis),
      Json.member "type" (.text "matrix"),
      Json.member "values" m.matrix.toJson]

/-- The text of an answer. -/
def report (layout : Json.Layout) (answer : Option Answer) : String :=
  ((answer.map Answer.toJson).getD .null).render layout

end Axial
