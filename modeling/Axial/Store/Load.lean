import Axial.Json.Number
import Axial.Json.Parser
import Axial.Store.Description

/-!
# Loading stores

A store is written down as a JSON object with the fields `name`, `scalars`, `axes`, `vectors` and
`matrices`, of which only the name is required. Fields of other names are passed over, and a
field given twice is refused. An object may also be written as the array of its fields.

* `Json.value?`, `Json.column?`, `Json.rows?` : documents as data. A column is read as the first
  of truth values, whole numbers, floating-point numbers and strings that fits all its items.
* `Json.map?` : an object as a map, sorted by its names; of repeated names the last one counts.
* `Json.description?` : a document as the description of a store.
* `Store.load` : the store of a text.
-/

namespace Axial

namespace Json

/-! ### Values -/

/-- A truth value. -/
def bool? : Json → Option Bool
  | bool b => some b
  | _ => none

/-- A whole number of 64 bits. -/
def int? : Json → Option Int64
  | number literal => (Number.ofLiteral literal).int?
  | _ => none

/-- A floating-point number; whole numbers count. -/
def float? : Json → Option Binary64
  | number literal => (Number.ofLiteral literal).float?
  | _ => none

/-- A string. -/
def text? : Json → Option String
  | string text => text
  | _ => none

/-- An array of what the given reader reads. -/
def list? {α : Type} (read : Json → Option α) : Json → Option (List α)
  | array items => items.mapM read
  | _ => none

/-- The value of a document: the first type that fits. -/
def value? (document : Json) : Option Value :=
  (document.bool?.map .bool)
    <|> (document.int?.map .int)
    <|> (document.float?.map .float)
    <|> (document.text?.map .string)

/-- The column of an array: the first type that fits all items. -/
def column? (document : Json) : Option Column :=
  ((document.list? bool?).map .bool)
    <|> ((document.list? int?).map .int)
    <|> ((document.list? float?).map .float)
    <|> ((document.list? text?).map .string)

/-- The rows of an array of arrays: the first type that fits all items. -/
def rows? (document : Json) : Option Rows :=
  ((document.list? (list? bool?)).map .bool)
    <|> ((document.list? (list? int?)).map .int)
    <|> ((document.list? (list? float?)).map .float)
    <|> ((document.list? (list? text?)).map .string)

/-! ### Maps -/

/-- Put a value into a list of pairs sorted by their names, in place of the one of that name. -/
def insertSorted {α : Type} (name : String) (value : α) :
    List (String × α) → List (String × α)
  | [] => [(name, value)]
  | (other, old) :: pairs =>
    if name < other then (name, value) :: (other, old) :: pairs
    else if name = other then (name, value) :: pairs
    else (other, old) :: insertSorted name value pairs

/-- Pairs sorted by their names; of repeated names the last one counts. -/
def sortPairs {α : Type} (pairs : List (String × α)) : List (String × α) :=
  pairs.foldl (fun sorted (name, value) => insertSorted name value sorted) []

/-- A member with a name that is text and a value that the given reader reads. -/
def member? {α : Type} (read : Json → Option α) (member : Option String × Json) :
    Option (String × α) := do
  return (← member.1, ← read member.2)

/-- An object as a map. -/
def map? {α : Type} (read : Json → Option α) : Json → Option (List (String × α))
  | object members => (members.mapM (member? read)).map sortPairs
  | _ => none

/-! ### Records -/

/-- The fields of a record in the given order, each with its value if it is there. A record is an
object without repeated fields, or an array of its first fields. -/
def fields? (names : List String) : Json → Option (List (Option Json))
  | object members =>
    if members.all (·.1.isSome) then
      names.mapM fun name =>
        match members.filter (·.1 = some name) with
        | [] => some none
        | [(_, value)] => some (some value)
        | _ => none
    else none
  | array items =>
    if items.length ≤ names.length then
      some (items.map some ++ List.replicate (names.length - items.length) none)
    else none
  | _ => none

/-- A field that may be missing. -/
def orDefault {α : Type} (default : α) (read : Json → Option α) : Option Json → Option α
  | none => some default
  | some document => read document

/-- A matrix of a description. -/
def matrixItem? (document : Json) : Option MatrixItem :=
  match document.fields? ["rows", "columns", "name", "values"] with
  | some [some rows, some columns, some name, some values] => do
    return ⟨← rows.text?, ← columns.text?, ← name.text?, ← values.rows?⟩
  | _ => none

/-- The description of a store. -/
def description? (document : Json) : Option Description :=
  match document.fields? ["name", "scalars", "axes", "vectors", "matrices"] with
  | some [some name, scalars, axes, vectors, matrices] => do
    return {
      name := ← name.text?
      scalars := ← orDefault [] (map? value?) scalars
      axes := ← orDefault [] (map? (list? text?)) axes
      vectors := ← orDefault [] (map? (map? column?)) vectors
      matrices := ← orDefault [] (list? matrixItem?) matrices }
  | _ => none

end Json

/-- Why a text is not a store. -/
inductive LoadError where
  /-- The text is no JSON document, or one of another form. -/
  | malformed
  | store (error : StoreError)
deriving DecidableEq, Repr

/-- The wording of a load error. -/
def LoadError.message : LoadError → String
  | malformed => "invalid JSON data"
  | store error => error.message

/-- The store of a text. -/
def Store.load (text : String) : Except LoadError Store :=
  match (Json.parse? text).bind Json.description? with
  | none => .error .malformed
  | some description => (Store.ofDescription description).mapError .store

end Axial
